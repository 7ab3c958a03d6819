import CopyBench.Pool.Basic
/-!
# Recording sessions

A session is a machine together with the pool that records for it. Slots are
begun, ended, flushed and acquired here; every operation says in one place how
a slot's state follows what the device was asked to do. No caller has to track
open slots: acquiring a slot that is still open flushes it first.
-/

namespace CopyBench

/-- A machine and the pool that records for it. -/
structure Session where
  machine : Machine
  pool : CommandPool

instance : Console Session := ⟨fun note s => { s with machine := Console.tell note s.machine }⟩

namespace Session

variable {α : Type}

/-- Runs an action on the machine of a session. -/
def onMachine (act : Action Machine α) : Action Session α := fun s =>
  let { machine, pool } := s
  match act machine with
  | .ok a machine => .ok a { machine, pool }
  | .error f machine => .error f { machine, pool }

instance : MonadLift (Action Machine) (Action Session) := ⟨onMachine⟩

/-- The pool of a session. -/
def getPool : Action Session CommandPool := fun s => .ok s.pool s

/-- Puts a slot into another state. -/
def setState (index : Nat) (state : SlotState) : Action Session Unit :=
  modify fun s => { s with pool := s.pool.setState index state }

/-- The slot with an index, or the error that there is none. -/
def slot (index : Nat) : Action Session Slot := do
  match (← getPool).slot index with
  | .ok slot => pure slot
  | .error e => Action.fail e

/-- How long a wait for a fence may take, in nanoseconds. -/
def fenceTimeout : UInt64 := 0xFFFFFFFFFFFFFFFF

/-- The usage flag of a command buffer that may be pending while it is recorded again. -/
def simultaneousUse : UInt32 := 4

/-- Waits until the queue has finished everything. -/
def drain : Action Session Unit := do
  let pool ← getPool
  (Machine.queueWaitIdle pool.queue : Action Machine _).orOperational Entrypoint.queueWaitIdle.symbol

/-- Opens slot `index` for recording and gives its command buffer. A pending
slot is waited for first; what an executable slot had recorded is dropped. -/
def begin (index : Nat) (flags : UInt32) : Action Session Handle := do
  let slot ← slot index
  match slot.state with
  | .recording => Action.fail (.slotAlreadyOpen index)
  | .pending => do
    log .trace ("Draining queue before re-recording pending slot " ++ toString index)
    drain
  | .idle | .executable => pure ()
  (Machine.beginCommandBuffer slot.commandBuffer flags : Action Machine _).orOperational
    Entrypoint.beginCommandBuffer.symbol
  setState index .recording
  pure slot.commandBuffer

/-- Ends the recording of slot `index`. -/
def finishRecording (index : Nat) : Action Session Unit := do
  let slot ← slot index
  if slot.state = .recording then
    (Machine.endCommandBuffer slot.commandBuffer : Action Machine _).orOperational
      Entrypoint.endCommandBuffer.symbol
    setState index .executable
  else Action.fail (.slotNotOpen index)

/-- Submits slot `index` and leaves it pending. -/
def submit (index : Nat) (commandBuffer : Handle) : Action Session Unit := do
  let pool ← getPool
  (pool.device.queueSubmit pool.queue commandBuffer none).orOperational Entrypoint.queueSubmit.symbol
  setState index .pending

/-- Submits slot `index` with a fence and waits for it. Once the submission is
accepted the slot is pending, even if the wait then fails. The fence is
destroyed in every case. -/
def submitAndWait (index : Nat) (commandBuffer : Handle) : Action Session Unit := do
  let pool ← getPool
  let fence ← (Machine.createFence : Action Machine _).orOperational Entrypoint.createFence.symbol
  let submission : Action Machine Unit :=
    (pool.device.queueSubmit pool.queue commandBuffer (some fence)).orOperational
      Entrypoint.queueSubmit.symbol
  match ← Action.recover submission with
  | .error e => do
    Machine.destroyFence fence
    Action.fail e
  | .ok () => do
    setState index .pending
    let waited ← Machine.waitForFence fence fenceTimeout
    Machine.destroyFence fence
    (pure waited : Action Session _).orOperational Entrypoint.waitForFence.symbol
    setState index .idle

/-- Submits the work of slot `index`, after ending its recording if it is open,
and waits for it if asked to. An idle slot has no work. A pending slot is only
waited for. -/
def flush (index : Nat) (wait : Bool) : Action Session Unit := do
  let slot ← slot index
  match slot.state with
  | .idle => log .trace ("Slot " ++ toString index ++ " has no recorded work, nothing to flush")
  | .pending =>
    if wait then
      drain
      setState index .idle
  | .recording => do
    finishRecording index
    if wait then submitAndWait index slot.commandBuffer else submit index slot.commandBuffer
  | .executable =>
    if wait then submitAndWait index slot.commandBuffer else submit index slot.commandBuffer

/-- Flushes `n` slots in order from slot `index` on, up to the first failure. -/
def flushFrom (wait : Bool) : Nat → Nat → Action Session Unit
  | _, 0 => pure ()
  | index, n + 1 => do
    match ← Action.recover (flush index wait) with
    | .ok () => flushFrom wait (index + 1) n
    | .error source => Action.fail (.flushFailed index source)

/-- Flushes all slots in order, up to the first failure. -/
def flushAll (wait : Bool) : Action Session Unit := do
  let pool ← getPool
  flushFrom wait 0 pool.slots.length

/-- Opens the next slot of the ring for recording and gives its index and its
command buffer. The ring moves on even if this fails. -/
def acquire : Action Session (Nat × Handle) := do
  let pool ← getPool
  let index := pool.cursor
  modify fun s => { s with pool := { s.pool with cursor := (index + 1) % s.pool.slots.length } }
  match ← Action.recover (begin index simultaneousUse) with
  | .ok commandBuffer => pure (index, commandBuffer)
  | .error (.slotAlreadyOpen _) => do
    log .debug ("Slot " ++ toString index ++ " still open, flushing before reuse")
    flush index true
    modify fun s => { s with pool := { s.pool with autoFlushes := s.pool.autoFlushes + 1 } }
    let commandBuffer ← begin index simultaneousUse
    pure (index, commandBuffer)
  | .error e => Action.fail e

/-- Ends the encoding of slot `index` in one of three ways. -/
def close (index : Nat) : Ending → Action Session Unit
  | .keep => finishRecording index
  | .submit => flush index false
  | .finish => flush index true

end Session

end CopyBench
