import CopyBench.Machine.Calls
import CopyBench.Text.Quoted
/-!
# Devices

A device is the way to a machine. The direct way is the machine's own calls.
The way through a logical device adds the calls that belong to one: it frees
command buffers before their pool, attaches names only when debug names are on,
and reports a device that breaks down as lost instead of passing the panic on.
-/

namespace CopyBench

/-- How the calls on a device reach the machine. -/
inductive Route where
  | direct
  /-- Through a logical device, with or without debug names. -/
  | logical (debugNames : Bool)
deriving DecidableEq, Repr

/-- A way to a machine. -/
structure Device where
  /-- Whether there is no device behind this at all. -/
  isNull : Bool := false
  /-- The property flags of the memory types. -/
  memoryTypes : List UInt32
  route : Route := .direct
deriving DecidableEq, Repr

namespace Device

/-- The object type of a buffer, as names speak of it. -/
def bufferType : UInt32 := 9

/-- The flag of a pool whose command buffers can be begun again one by one. -/
def resettable : UInt32 := 2

/-- Makes a pool. That of a logical device lets its command buffers be begun one by one. -/
def createCommandPool (device : Device) (family : UInt32) :
    Action Machine (Except ResultCode Handle) := do
  match device.route with
  | .direct => pure ()
  | .logical _ => Machine.record (.poolCreationFlags resettable) .done
  Machine.createCommandPool family

/-- Destroys a pool. That of a logical device gives its command buffers back first. -/
def destroyCommandPool (device : Device) (pool : Handle) (commandBuffers : List Handle) :
    Action Machine Unit :=
  match device.route with
  | .direct => Machine.destroyCommandPool pool commandBuffers
  | .logical _ => do
    if commandBuffers ≠ [] then
      Machine.record (.freeCommandBuffers pool commandBuffers) .done
    Machine.destroyCommandPool pool []

/-- Submits a command buffer. A logical device that breaks down is lost. -/
def queueSubmit (device : Device) (queue commandBuffer : Handle) (fence : Option Handle) :
    Action Machine (Except ResultCode Unit) :=
  match device.route with
  | .direct => Machine.queueSubmit queue commandBuffer fence
  | .logical _ => do
    match ← Action.attempt (Machine.queueSubmit queue commandBuffer fence) with
    | .ok answer => pure answer
    | .error _ => pure (.error .deviceLost)

/-- Attaches a name to an object. -/
def nameObject (device : Device) (objectType : UInt32) (handle : Handle) (name : String) :
    Action Machine (Except ResultCode Unit) :=
  match device.route with
  | .direct => Machine.nameObject objectType handle name
  | .logical false => pure (.ok ())
  | .logical true =>
    if name.contains '\x00' then do
      log .warn ("skipping debug name with interior null byte: " ++ Text.quoted name)
      pure (.ok ())
    else Machine.nameObject objectType handle name

end Device

end CopyBench
