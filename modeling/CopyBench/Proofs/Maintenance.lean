import CopyBench.Proofs.Action
/-!
# Properties that actions maintain

An action maintains a property of its state when it ends where the property holds whenever it is
started there, however it ends. The rules below follow the text of an action, so what is left to
show of a whole operation is what its single calls do.
-/

namespace CopyBench.Action

variable {σ τ α β : Type} {I : σ → Prop}

/-- Started where `I` holds, the action ends where `I` holds. -/
def Maintains (I : σ → Prop) (act : Action σ α) : Prop := ∀ s, I s → act.Ends s fun _ s' => I s'

theorem Maintains.finalState {act : Action σ α} (h : Maintains I act) {s : σ} (hs : I s) :
    I (act.finalState s) :=
  ends_finalState.1 (h s hs)

namespace Maintains

theorem pure (a : α) : Maintains I (pure a : Action σ α) := fun _ hs => hs

theorem fail (e : Error) : Maintains I (Action.fail e : Action σ α) := fun _ hs => hs

theorem throw (f : Failure) : Maintains I (MonadExcept.throw f : Action σ α) := fun _ hs => hs

theorem modify {f : σ → σ} (h : ∀ s, I s → I (f s)) : Maintains I (modify f : Action σ PUnit) :=
  fun s hs => h s hs

theorem log [Console σ] (told : ∀ note s, I s → I (Console.tell note s)) (level : Level)
    (message : String) : Maintains I (log level message : Action σ Unit) :=
  fun s hs => told _ s hs

theorem conclude (r : Except Failure α) : Maintains I (Action.conclude r : Action σ α) := fun s hs => by
  rw [ends_conclude]
  exact hs

theorem bind {act : Action σ α} {f : α → Action σ β} (h : Maintains I act)
    (h' : ∀ a, Maintains I (f a)) : Maintains I (act >>= f) := fun s hs => by
  rw [ends_bind]
  refine (h s hs).mono fun r s' hs' => ?_
  cases r with
  | error f => exact hs'
  | ok a => exact h' a s' hs'

theorem ite {p : Prop} [Decidable p] {x y : Action σ α} (hx : Maintains I x) (hy : Maintains I y) :
    Maintains I (if p then x else y) := by
  split
  · exact hx
  · exact hy

theorem attempt {act : Action σ α} (h : Maintains I act) : Maintains I (Action.attempt act) := fun s hs => by
  rw [ends_attempt]
  exact h s hs

theorem recover {act : Action σ α} (h : Maintains I act) : Maintains I (Action.recover act) := fun s hs => by
  rw [ends_recover]
  refine (h s hs).mono fun r s' hs' => ?_
  rcases r with (e | p) | a <;> exact hs'

theorem orFatal {act : Action σ (Except ResultCode α)} (call : String) (h : Maintains I act) :
    Maintains I (Action.orFatal call act) :=
  h.bind fun r => by
    cases r with
    | ok a => exact pure a
    | error code => exact fail _

theorem orOperational {act : Action σ (Except ResultCode α)} (call : String) (h : Maintains I act) :
    Maintains I (Action.orOperational call act) :=
  h.bind fun r => by
    cases r with
    | ok a => exact pure a
    | error code => exact fail _

theorem ensuring {act : Action σ α} {cleanup : Action σ Unit} (h : Maintains I act)
    (h' : Maintains I cleanup) : Maintains I (Action.ensuring act cleanup) :=
  h.attempt.bind fun r => h'.bind fun _ => conclude r

theorem onFailure {act : Action σ α} {cleanup : Action σ Unit} (h : Maintains I act)
    (h' : Maintains I cleanup) : Maintains I (Action.onFailure act cleanup) :=
  h.attempt.bind fun r => by
    cases r with
    | ok a => exact pure a
    | error f => exact h'.bind fun _ => throw f

theorem onFirst {act : Action σ α} (h : Maintains I act) :
    Maintains (fun s : σ × τ => I s.1) (Action.onFirst act) := fun s hs => by
  rw [ends_onFirst]
  exact h s.1 hs

end Maintains

end CopyBench.Action
