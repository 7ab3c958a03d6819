import CopyBench.ResultCode
import CopyBench.Text.Flags
/-!
# Errors

An error names its cause. `Error.message` words it, and `Error.isFatal` says
whether it ends the run: a misconfiguration does, every other error fails only
the test case that met it, and a failed flush is as severe as its source.
-/

namespace CopyBench

/-- Why the environment cannot support what was asked for. -/
inductive Misconfiguration where
  /-- A cause given in words. -/
  | stated (text : String)
  /-- A call of the setup answered with a code. -/
  | callFailed (call : String) (code : ResultCode)
  | nullDevice
  | emptyPool
  /-- No memory type in `filter` has all of `required`. -/
  | noMemoryType (filter required : UInt32)
  | missingExtension (name : String)
  | missingLayer (name : String)
  | missingLoader (reason : String)
  | loaderNotLoaded
  | noSuchDevice (index : UInt32) (available : Nat)
  | noQueueFamily
  | noQueue
  | runWithoutSetup
deriving DecidableEq, Repr

namespace Misconfiguration

/-- What is wrong, in words. -/
def describe : Misconfiguration → String
  | stated text => text
  | callFailed call code => call ++ " failed: " ++ code.describe
  | nullDevice => "command pool needs a valid device"
  | emptyPool => "command pool needs at least one command buffer"
  | noMemoryType filter required =>
    "failed to find suitable memory type (filter " ++ Hex.literal filter.toNat ++ ", flags " ++
      Flags.describe Flags.memoryProperties required ++ ")"
  | missingExtension name =>
    "Vulkan instance is missing required extension " ++ name ++
      ". Do you have a compatible Vulkan installable client driver (ICD) installed?"
  | missingLayer name => "validation layer not supported: " ++ name
  | missingLoader reason =>
    "failed to load the Vulkan loader: " ++ reason ++ ". Is a Vulkan driver (ICD) installed?"
  | loaderNotLoaded => "Vulkan used before vulkan::loader::initialize()"
  | noSuchDevice index available =>
    "invalid physical device index " ++ toString index.toNat ++ ", " ++ toString available ++
      " device(s) available"
  | noQueueFamily => "physical device exposes no transfer-capable queue family"
  | noQueue => "Vulkan context was created without a queue"
  | runWithoutSetup => "copy buffer run without setup"

end Misconfiguration

/-- Everything that can go wrong short of a broken promise of the caller. -/
inductive Error where
  /-- The surroundings cannot give what was asked for. -/
  | configuration (cause : Misconfiguration)
  | slotAlreadyOpen (index : Nat)
  | slotNotOpen (index : Nat)
  | slotOutOfRange (index count : Nat)
  /-- Flushing slot `index` failed with `source`. -/
  | flushFailed (index : Nat) (source : Error)
  /-- The range `offset`, `size` does not lie in an allocation of `capacity` bytes. -/
  | mapRange (offset size capacity : UInt64)
  /-- A device call in steady state answered with a code. -/
  | vulkan (call : String) (code : ResultCode)
deriving DecidableEq, Repr

namespace Error

/-- The text of an error, without its source. -/
def message : Error → String
  | configuration cause => "configuration error: " ++ cause.describe
  | slotAlreadyOpen index => "command buffer slot " ++ toString index ++ " is already open"
  | slotNotOpen index => "command buffer slot " ++ toString index ++ " was never opened"
  | slotOutOfRange index count =>
    "command buffer slot " ++ toString index ++ " is out of range (pool holds " ++
      toString count ++ ")"
  | flushFailed index _ => "failed to flush command buffer slot " ++ toString index
  | mapRange offset size capacity =>
    "mapping " ++ toString size.toNat ++ " bytes at offset " ++ toString offset.toNat ++
      " exceeds allocation of " ++ toString capacity.toNat ++ " bytes"
  | vulkan call code => call ++ " failed: " ++ code.describe

/-- Whether an error ends the run, and not only the test case that met it. -/
def isFatal : Error → Bool
  | configuration _ => true
  | flushFailed _ source => source.isFatal
  | _ => false

/-- The texts of an error and its sources, outermost first. -/
def chain : Error → List String
  | error@(flushFailed _ source) => error.message :: source.chain
  | error => [error.message]

end Error

end CopyBench
