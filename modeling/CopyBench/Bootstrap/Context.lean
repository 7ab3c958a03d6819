import CopyBench.Bootstrap.Instance
import CopyBench.Bootstrap.QueueFamily
import CopyBench.Pool.Basic
/-!
# Device contexts

A context owns an instance, its debug messenger and, unless that is disabled, a
logical device with the pool that records for its queue. Bringing a context up
either succeeds or takes down again what was made. It is taken down in the
order pool, device, messenger, instance.
-/

namespace CopyBench

/-- An instance and what was made on it. -/
structure Context where
  messenger : Option Handle
  /-- The pool on the logical device, unless there is no device. -/
  pool : Option CommandPool := none
deriving DecidableEq, Repr

namespace Context

/-- Destroys a logical device, after waiting for it. -/
def destroyDevice : Action Machine Unit := do
  log .trace "Destroying logical device"
  match ← Machine.affect .deviceWaitIdle .deviceWaitIdle id with
  | .ok () => pure ()
  | .error code =>
    log .warn ("device_wait_idle failed before destroying device: " ++ code.describe)
  Machine.record .destroyDevice .done

/-- Takes a context down. -/
def release (context : Context) : Action Machine Unit := do
  log .trace "Destroying Vulkan Context"
  match context.pool with
  | none => pure ()
  | some pool => do
    pool.release
    destroyDevice
  match context.messenger with
  | none => pure ()
  | some messenger => do
    log .trace "  Destroying debug messenger"
    Machine.record (.destroyMessenger messenger) .done
  log .trace "  Destroying Instance"
  Instance.destroy
  log .trace "Vulkan Context Destroyed"

/-- Picks the physical device with an index. -/
def pickDevice (platform : Platform) (index : UInt32) : Action Machine PhysicalDevice := do
  Platform.enumerate .enumerateDevices
  match platform.devices[index.toNat]? with
  | none => Action.fail (.configuration (.noSuchDevice index platform.devices.length))
  | some physical => do
    log .debug ("Selected physical device " ++ toString index.toNat ++ ": " ++
      Text.quotedOctets physical.name.content)
    pure physical

/-- Makes a logical device with one queue of a family. -/
def createDevice (index : UInt32) (family : Nat) : Action Machine Unit := do
  (Machine.affect .createDevice (.createDevice index.toNat family) id).orFatal
    Entrypoint.createDevice.symbol
  Machine.record (.getDeviceQueue family) .done
  log .trace ("Created logical device with one queue on family " ++ toString family)

/-- Makes a logical device and the pool on it. -/
def createPool (config : Configuration) (physical : PhysicalDevice) (hasMessenger : Bool) :
    Action Machine CommandPool := do
  let family ← QueueFamily.choose physical.families config.engine
  if config.profiling && family.timestampBits = 0 then
    log .warn ("queue family " ++ toString family.index ++
      " has no timestamp support, profiling falls back to host timing")
  createDevice config.deviceIndex family.index
  let device : Device := {
    memoryTypes := physical.memoryTypes
    route := .logical (config.wantsDebugUtils && hasMessenger) }
  let creation := CommandPool.create device Platform.queue CommandPool.defaultDepth
    family.index.toUInt32 CommandPool.primaryLevel
  creation.onFailure destroyDevice

/-- Brings a context up. Every error is a misconfiguration. -/
def create (platform : Platform) (config : Configuration) : Action Machine Context := do
  let messenger ← Instance.create platform config
  let bare : Context := { messenger }
  let rest : Action Machine Context := do
    let physical ← pickDevice platform config.deviceIndex
    if config.createsQueue then do
      let pool ← createPool config physical messenger.isSome
      pure { bare with pool := some pool }
    else pure bare
  rest.onFailure bare.release

end Context

end CopyBench
