import CopyBench.Bootstrap.Configuration
import CopyBench.Bootstrap.Platform
/-!
# Instances and debug messengers

An instance is asked for with the one extension it cannot do without, and with
others only where they are available and wanted. A debug messenger that was
asked for but cannot be made is only warned about.
-/

namespace CopyBench.Instance

/-- The extension that no instance can do without. -/
def requiredExtension : String := "VK_KHR_get_physical_device_properties2"

/-- The extension that lets devices with a portability layer be enumerated. -/
def portabilityExtension : String := "VK_KHR_portability_enumeration"

/-- The extension behind debug messengers and object names. -/
def debugExtension : String := "VK_EXT_debug_utils"

/-- The layer that validates calls. -/
def validationLayer : String := "VK_LAYER_KHRONOS_validation"

/-- A version in the packed form of the instance calls. -/
def packVersion (major minor : UInt32) : UInt32 := (major <<< 22) ||| (minor <<< 12)

/-- The messages a messenger wants: errors and warnings always, and with the
debug layer also information and verbose ones. -/
def messengerMask (debugLayer : Bool) : MessengerMask where
  severity := if debugLayer then 0x1111 else 0x1100
  messageType := 7

/-- Whether the debug utilities are wanted and available. -/
def debugEnabled (platform : Platform) (config : Configuration) : Bool :=
  config.wantsDebugUtils && platform.supports debugExtension

/-- What is asked of a platform for a configuration. -/
def request (platform : Platform) (config : Configuration) : InstanceRequest where
  applicationName := "vkbench"
  applicationVersion := packVersion 1 0
  engineVersion := packVersion 1 0
  apiVersion := packVersion 1 3
  portability := platform.supports portabilityExtension
  extensions := [requiredExtension] ++
    (if platform.supports portabilityExtension then [portabilityExtension] else []) ++
    (if debugEnabled platform config then [debugExtension] else [])
  layers := if config.validation then [validationLayer] else []
  messenger :=
    if debugEnabled platform config then some (messengerMask config.debugLayer) else none

/-- The level at which a message is logged. -/
def messageLevel (severity : UInt32) : Level :=
  match severity with
  | 0x1 => .debug
  | 0x10 => .info
  | 0x100 => .warn
  | _ => .error

/-- Whether a messenger wants a message. -/
def wants (mask : MessengerMask) (message : DebugMessage) : Bool :=
  Flags.meets mask.severity message.severity && Flags.meets mask.messageType message.messageType

/-- Logs the messages that a messenger wants. -/
def deliver (mask : MessengerMask) : List DebugMessage → Action Machine Unit
  | [] => pure ()
  | message :: rest => do
    if wants mask message then
      log (messageLevel message.severity)
        (Flags.describe Flags.messageTypes message.messageType ++ " - " ++
          Text.quotedOctets (message.octets.takeWhile (· ≠ 0)))
    deliver mask rest

/-- Fails unless the validation layer is available. -/
def checkValidationLayer (platform : Platform) : Action Machine Unit := do
  Platform.enumerate .enumerateLayers
  if platform.hasLayer validationLayer then pure ()
  else Action.fail (.configuration (.missingLayer validationLayer))

/-- Makes the debug messenger of an instance, if it can be made. -/
def createMessenger (platform : Platform) (mask : MessengerMask) :
    Action Machine (Option Handle) := do
  let call := Machine.affect .createMessenger (.createMessenger mask) id
  match ← call with
  | .ok () => do
    deliver mask platform.messages
    pure (some Platform.messenger)
  | .error code => do
    log .warn ("failed to create debug_utils_messenger: " ++ code.symbol)
    pure none

/-- Creates an instance for a configuration. Gives its debug messenger, if it
has one. Every error is a misconfiguration and leaves no instance behind. -/
def create (platform : Platform) (config : Configuration) : Action Machine (Option Handle) := do
  Platform.requireLoaded
  Platform.enumerate .enumerateExtensions
  if platform.supports requiredExtension then do
    if config.wantsDebugUtils && !platform.supports debugExtension then
      log .warn "VK_EXT_debug_utils not available, validation output will be lost"
    if config.validation then checkValidationLayer platform
    let wanted := request platform config
    (Machine.affect .createInstance (.createInstance wanted) id).orFatal
      Entrypoint.createInstance.symbol
    match wanted.messenger with
    | none => do
      log .trace "Created Vulkan instance"
      pure none
    | some mask => do
      deliver mask platform.messages
      log .trace "Created Vulkan instance"
      createMessenger platform mask
  else Action.fail (.configuration (.missingExtension requiredExtension))

/-- Destroys an instance. -/
def destroy : Action Machine Unit := Machine.record .destroyInstance .done

end CopyBench.Instance
