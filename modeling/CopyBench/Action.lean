import CopyBench.Error
/-!
# Actions

An `Action σ α` changes a state `σ` and ends with a value, with an error, or
with a panic. The state is kept on every outcome: what a failing action did
before it failed stays done. Errors can be recovered from; a panic runs the
cleanups on its way out and ends the program.
-/

namespace CopyBench

/-- A broken promise between the caller and the device. -/
inductive Panic where
  | copyBetweenUnboundBuffers
  | copyOutOfRange
  | submitWithDeadFence
  | waitOnDeadFence
deriving DecidableEq, Repr

/-- How an action can end without a value. -/
inductive Failure where
  | error (cause : Error)
  | panic (cause : Panic)
deriving DecidableEq, Repr

/-- A computation on the state `σ` that keeps the state when it fails. -/
abbrev Action (σ : Type) := EStateM Failure σ

namespace Action

variable {σ τ α : Type}

/-- Fails with an error. -/
def fail (e : Error) : Action σ α := throw (.error e)

/-- Turns the way an action ends into a value. -/
def attempt (act : Action σ α) : Action σ (Except Failure α) := fun s =>
  match act s with
  | .ok a s => .ok (.ok a) s
  | .error f s => .ok (.error f) s

/-- Ends the way `result` says. -/
def conclude (result : Except Failure α) : Action σ α := fun s =>
  match result with
  | .ok a => .ok a s
  | .error f => .error f s

/-- Turns an error into a value and lets a panic pass. -/
def recover (act : Action σ α) : Action σ (Except Error α) := fun s =>
  match act s with
  | .ok a s => .ok (.ok a) s
  | .error (.error e) s => .ok (.error e) s
  | .error (.panic p) s => .error (.panic p) s

/-- The state in which an action ends, however it ends. -/
def finalState (act : Action σ α) (s : σ) : σ :=
  match act s with
  | .ok _ s => s
  | .error _ s => s

/-- Runs `cleanup` after `act`, however `act` ended, and ends as `act` did. -/
def ensuring (act : Action σ α) (cleanup : Action σ Unit) : Action σ α := do
  let result ← attempt act
  cleanup
  conclude result

/-- Runs `cleanup` after `act` only when `act` failed, and ends as `act` did. -/
def onFailure (act : Action σ α) (cleanup : Action σ Unit) : Action σ α := do
  match ← attempt act with
  | .ok a => pure a
  | .error f => do
    cleanup
    throw f

/-- Runs an action on the first part of a pair. -/
def onFirst (act : Action σ α) : Action (σ × τ) α := fun s =>
  let (first, second) := s
  match act first with
  | .ok a first => .ok a (first, second)
  | .error f first => .error f (first, second)

instance : MonadLift (Action σ) (Action (σ × τ)) := ⟨onFirst⟩

/-- The outcome of a call of the setup: a code is a misconfiguration. -/
def orFatal (call : String) (act : Action σ (Except ResultCode α)) : Action σ α := do
  match ← act with
  | .ok a => pure a
  | .error code => fail (.configuration (.callFailed call code))

/-- The outcome of a call in steady state: a code is reported to the caller. -/
def orOperational (call : String) (act : Action σ (Except ResultCode α)) : Action σ α := do
  match ← act with
  | .ok a => pure a
  | .error code => fail (.vulkan call code)

end Action

end CopyBench
