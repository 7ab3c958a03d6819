import CopyBench.Machine.Device
/-!
# Platforms

A platform is what the loader finds on a host: the extensions and layers of its
instances, its physical devices with their queue families and memory types, and
the debug messages it will send. It does not change during a run.
-/

namespace CopyBench

/-- A text field of 256 octets, given by what is stored from its start on. -/
structure TextField where
  octets : List UInt8
deriving DecidableEq, Repr

namespace TextField

/-- The number of octets of a field. -/
def size : Nat := 256

/-- A field that holds a text. -/
def ofString (text : String) : TextField := ⟨text.toUTF8.data.toList⟩

/-- The octets before the terminating zero; a field without one is unreadable. -/
def content? (field : TextField) : Option (List UInt8) :=
  let stored := field.octets.take size
  let text := stored.takeWhile (· ≠ 0)
  if text.length < size then some text else none

/-- The octets of a field, none if it is unreadable. -/
def content (field : TextField) : List UInt8 := field.content?.getD []

/-- The text of a field, empty if it is unreadable. -/
def text (field : TextField) : String := Text.lossy field.content

/-- Whether a field holds exactly a text. -/
def holds (field : TextField) (text : String) : Bool :=
  field.content? = some text.toUTF8.data.toList

end TextField

/-- Queues of one kind that a device offers. -/
structure QueueFamily where
  flags : UInt32
  count : UInt32
  /-- The bits of a timestamp that count; none means that there are no timestamps. -/
  timestampBits : UInt32
deriving DecidableEq, Repr

/-- A physical device. -/
structure PhysicalDevice where
  name : TextField
  vendorId : UInt32
  deviceId : UInt32
  deviceType : Int
  driverVersion : UInt32
  apiVersion : UInt32
  driverName : TextField
  driverInfo : TextField
  families : List QueueFamily
  memoryTypes : List UInt32
deriving DecidableEq, Repr

/-- A message for the debug messenger. -/
structure DebugMessage where
  severity : UInt32
  messageType : UInt32
  octets : List UInt8
deriving DecidableEq, Repr

/-- What the loader finds on a host. -/
structure Platform where
  /-- Why the loader itself cannot be loaded, if it cannot. -/
  loaderFault : Option String := none
  extensions : List TextField := []
  layers : List TextField := []
  devices : List PhysicalDevice := []
  messages : List DebugMessage := []
deriving DecidableEq, Repr

namespace Platform

/-- Whether an instance extension is available. -/
def supports (platform : Platform) (extension : String) : Bool :=
  platform.extensions.any (·.holds extension)

/-- Whether an instance layer is available. -/
def hasLayer (platform : Platform) (layer : String) : Bool :=
  platform.layers.any (·.holds layer)

/-- The queue that every device gives. -/
def queue : Handle := 7

/-- The messenger that every instance gives. -/
def messenger : Handle := 153

/-- Loads the entry to the instance calls. Loading it again does nothing. -/
def load (platform : Platform) : Action Machine Unit := do
  let m ← get
  if m.loaderLoaded then pure ()
  else
    match platform.loaderFault with
    | some reason => Action.fail (.configuration (.missingLoader reason))
    | none => do
      log .debug "Vulkan loader initialized"
      modify fun m => { m with loaderLoaded := true }

/-- Fails unless the entry to the instance calls has been loaded. -/
def requireLoaded : Action Machine Unit := do
  let m ← get
  if m.loaderLoaded then pure () else Action.fail (.configuration .loaderNotLoaded)

/-- A call that asks for a list. It can fail, and leaves no trace. -/
def enumerate (point : Entrypoint) : Action Machine Unit := do
  match ← Machine.nextFault point with
  | none => pure ()
  | some code => Action.fail (.configuration (.callFailed point.symbol code))

end Platform

end CopyBench
