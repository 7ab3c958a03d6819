import CopyBench.Machine.Device
/-!
# Command pools

A pool holds a fixed number of command buffers, its slots, in a ring, and
submits them to one queue. Creating one makes the pool object and its command
buffers; releasing one first waits for the queue when some slot may still be
executing.
-/

namespace CopyBench

/-- Where a slot stands between recording and completion. -/
inductive SlotState where
  /-- Nothing is recorded, and nothing submitted can still be executing. -/
  | idle
  | recording
  /-- Ended and not submitted yet. -/
  | executable
  /-- Submitted, and maybe still executing. -/
  | pending
deriving DecidableEq, Repr

/-- The word for a state. -/
def SlotState.name : SlotState → String
  | idle => "Idle"
  | recording => "Recording"
  | executable => "Executable"
  | pending => "Pending"

/-- The letter for a state. -/
def SlotState.letter : SlotState → Char
  | idle => 'I'
  | recording => 'R'
  | executable => 'E'
  | pending => 'P'

/-- A command buffer and where it stands. -/
structure Slot where
  commandBuffer : Handle
  state : SlotState := .idle
deriving DecidableEq, Repr

/-- How the recording into a slot ends. -/
inductive Ending where
  /-- End recording. -/
  | keep
  /-- End recording and submit. -/
  | submit
  /-- End recording, submit, and wait until it is executed. -/
  | finish
deriving DecidableEq, Repr

/-- The ending that submits, and waits if asked to. -/
def Ending.ofWait (wait : Bool) : Ending := if wait then .finish else .submit

/-- The slots of a pool, with the ring's cursor. -/
structure CommandPool where
  device : Device
  queue : Handle
  family : UInt32
  handle : Handle
  slots : List Slot
  /-- The slot that is acquired next. -/
  cursor : Nat := 0
  /-- How many open slots were flushed because they were acquired again. -/
  autoFlushes : Nat := 0
deriving DecidableEq, Repr

namespace CommandPool

/-- The number of slots when none is asked for. -/
def defaultDepth : Nat := 3

/-- The level of command buffers that are submitted to a queue. -/
def primaryLevel : Int := 0

/-- Creates a pool of `depth` slots. Every error is a misconfiguration. -/
def create (device : Device) (queue : Handle) (depth : Nat) (family : UInt32)
    (level : Int) : Action Machine CommandPool := do
  if device.isNull then Action.fail (.configuration .nullDevice)
  else if depth = 0 then Action.fail (.configuration .emptyPool)
  else
    let handle ← (device.createCommandPool family).orFatal Entrypoint.createCommandPool.symbol
    let allocation := (Machine.allocateCommandBuffers handle level depth).orFatal
      Entrypoint.allocateCommandBuffers.symbol
    let buffers ← allocation.onFailure (device.destroyCommandPool handle [])
    log .trace ("Created command pool with " ++ toString depth ++ " " ++
      Flags.commandBufferLevel level ++ " command buffers on family " ++ toString family.toNat)
    pure { device, queue, family, handle, slots := buffers.map fun buffer => { commandBuffer := buffer } }

/-- The letters of the slots' states, in order. -/
def stateLetters (pool : CommandPool) : String :=
  String.ofList (pool.slots.map (·.state.letter))

/-- Whether some slot may still be executing. -/
def hasPending (pool : CommandPool) : Bool := pool.slots.any (·.state = .pending)

/-- Gives a pool back, after waiting for its queue when something is pending. -/
def release (pool : CommandPool) : Action Machine Unit := do
  log .trace "Destroying command pool"
  if pool.hasPending then
    match ← Machine.queueWaitIdle pool.queue with
    | .ok () => pure ()
    | .error code =>
      log .warn ("failed to drain queue before destroying command pool: " ++ code.describe)
  pool.device.destroyCommandPool pool.handle (pool.slots.map (·.commandBuffer))

/-- The slot with an index. -/
def slot (pool : CommandPool) (index : Nat) : Except Error Slot :=
  match pool.slots[index]? with
  | some slot => .ok slot
  | none => .error (.slotOutOfRange index pool.slots.length)

/-- The pool with slot `index` in another state. -/
def setState (pool : CommandPool) (index : Nat) (state : SlotState) : CommandPool :=
  { pool with slots := pool.slots.modify index fun slot => { slot with state := state } }

end CommandPool

end CopyBench
