import CopyBench.Pool.Session
/-!
# Pool operations as data

Everything a caller can ask of a pool, and what it is answered. A run of a pool
is a list of operations, performed one after another whatever becomes of each.
-/

namespace CopyBench

/-- A request to a pool. -/
inductive PoolOperation where
  | begin (index : Nat) (flags : UInt32)
  | finishRecording (index : Nat)
  | flush (index : Nat) (wait : Bool)
  | flushAll (wait : Bool)
  | acquire
  | close (index : Nat) (ending : Ending)
  | commandBuffer (index : Nat)
  | state (index : Nat)
deriving DecidableEq, Repr

/-- What a request is answered. -/
inductive PoolReply where
  | done
  | commandBuffer (handle : Handle)
  | acquired (index : Nat) (commandBuffer : Handle)
  | state (state : SlotState)
deriving DecidableEq, Repr

namespace Session

/-- Performs a request. -/
def perform : PoolOperation → Action Session PoolReply
  | .begin index flags => do return .commandBuffer (← begin index flags)
  | .finishRecording index => do
    finishRecording index
    return .done
  | .flush index wait => do
    flush index wait
    return .done
  | .flushAll wait => do
    flushAll wait
    return .done
  | .acquire => do
    let (index, commandBuffer) ← acquire
    return .acquired index commandBuffer
  | .close index ending => do
    close index ending
    return .done
  | .commandBuffer index => do return .commandBuffer (← slot index).commandBuffer
  | .state index => do return .state (← slot index).state

/-- Performs requests in order, each whatever became of those before it. -/
def performAll : List PoolOperation → Action Session (List (Except Failure PoolReply))
  | [] => pure []
  | operation :: rest => do
    let reply ← Action.attempt (perform operation)
    return reply :: (← performAll rest)

end Session

end CopyBench
