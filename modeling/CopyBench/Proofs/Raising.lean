import CopyBench.Proofs.Action
import CopyBench.Error
/-!
# What actions fail with

An action raises a kind of failure when it fails with no other kind, wherever it is started. The rules below
follow the text of an action, so what is left to show of a whole operation is what its single calls fail with.
-/

namespace CopyBench

namespace Failure

/-- A panic, or an error that fails only the test case that meets it. -/
def Mild : Failure → Prop
  | error e => e.isFatal = false
  | panic _ => True

/-- A panic, or a misconfiguration. -/
def Misconfigured : Failure → Prop
  | error (.configuration _) => True
  | error _ => False
  | panic _ => True

/-- A panic, or the code of a device call in steady state. -/
def Operational : Failure → Prop
  | error (.vulkan _ _) => True
  | error _ => False
  | panic _ => True

theorem Misconfigured.exists_cause {e : Error} (h : (error e).Misconfigured) : ∃ cause, e = .configuration cause := by
  cases e with
  | configuration cause => exact ⟨cause, rfl⟩
  | slotAlreadyOpen | slotNotOpen | slotOutOfRange | flushFailed | mapRange | vulkan => exact h.elim

theorem Operational.exists_code {e : Error} (h : (error e).Operational) : ∃ call code, e = .vulkan call code := by
  cases e with
  | vulkan call code => exact ⟨call, code, rfl⟩
  | configuration | slotAlreadyOpen | slotNotOpen | slotOutOfRange | flushFailed | mapRange => exact h.elim

theorem Misconfigured.isFatal {e : Error} (h : (error e).Misconfigured) : e.isFatal = true := by
  obtain ⟨cause, rfl⟩ := h.exists_cause
  rfl

theorem Operational.mild {f : Failure} (h : f.Operational) : f.Mild := by
  rcases f with e | p
  · obtain ⟨call, code, rfl⟩ := h.exists_code
    rfl
  · trivial

end Failure

namespace Action

variable {σ α β : Type} {P Q : Failure → Prop}

/-- Wherever the action is started, it fails with what `P` holds of, if it fails. -/
def Raises (P : Failure → Prop) (act : Action σ α) : Prop :=
  ∀ s, act.Ends s fun r _ => ∀ f, r = .error f → P f

namespace Raises

theorem mono {act : Action σ α} (h : Raises P act) (hPQ : ∀ f, P f → Q f) : Raises Q act := fun s =>
  (h s).mono fun _ _ h f hf => hPQ f (h f hf)

theorem pure (a : α) : Raises P (pure a : Action σ α) := fun _ => nofun

theorem throw {f : Failure} (h : P f) : Raises P (MonadExcept.throw f : Action σ α) := by
  rintro _ _ ⟨⟩
  exact h

theorem fail {e : Error} (h : P (.error e)) : Raises P (Action.fail e : Action σ α) := throw h

theorem modify (f : σ → σ) : Raises P (modify f : Action σ PUnit) := fun _ => nofun

theorem log [Console σ] (level : Level) (message : String) : Raises P (log level message : Action σ Unit) :=
  fun _ => nofun

theorem bind {act : Action σ α} {f : α → Action σ β} (h : Raises P act) (h' : ∀ a, Raises P (f a)) :
    Raises P (act >>= f) := fun s => by
  rw [ends_bind]
  refine (h s).mono fun r s' hr => ?_
  cases r with
  | error f =>
    rintro _ ⟨⟩
    exact hr f rfl
  | ok a => exact h' a s'

theorem ite {p : Prop} [Decidable p] {x y : Action σ α} (hx : Raises P x) (hy : Raises P y) :
    Raises P (if p then x else y) := by
  split
  · exact hx
  · exact hy

/-- A note or a check that is taken only under a condition. -/
theorem optional {p : Prop} [Decidable p] {x : Action σ PUnit} {f : PUnit → Action σ α} (hx : Raises P x)
    (hf : ∀ a, Raises P (f a)) : Raises P (if p then x >>= f else f ()) :=
  .ite (hx.bind hf) (hf ())

theorem attempt (act : Action σ α) : Raises P (Action.attempt act) := fun s => by
  rw [ends_attempt]
  exact .of_forall fun _ _ => nofun

theorem recover {act : Action σ α} (h : Raises P act) : Raises P (Action.recover act) := fun s => by
  rw [ends_recover]
  refine (h s).mono fun r _ hr => ?_
  rcases r with (e | p) | a
  · exact nofun
  · rintro _ ⟨⟩
    exact hr _ rfl
  · exact nofun

/-- An error that is recovered from is of the kind that the action raises. -/
theorem recover_bind {act : Action σ α} {f : Except Error α → Action σ β} (h : Raises P act)
    (ok : ∀ a, Raises P (f (.ok a))) (error : ∀ e, P (.error e) → Raises P (f (.error e))) :
    Raises P (Action.recover act >>= f) := fun s => by
  rw [ends_bind, ends_recover]
  refine (h s).mono fun r s' hr => ?_
  rcases r with (e | p) | a
  · exact error e (hr _ rfl) s'
  · rintro _ ⟨⟩
    exact hr _ rfl
  · exact ok a s'

theorem onFailure {act : Action σ α} {cleanup : Action σ Unit} (h : Raises P act) (h' : Raises P cleanup) :
    Raises P (Action.onFailure act cleanup) := fun s => by
  rw [ends_onFailure]
  refine (h s).mono fun r s' hr => ?_
  cases r with
  | ok a => exact nofun
  | error f =>
    refine (h' s').mono fun c _ hc => ?_
    cases c with
    | ok _ =>
      rintro _ ⟨⟩
      exact hr f rfl
    | error f' =>
      rintro _ ⟨⟩
      exact hc f' rfl

theorem orFatal {call : String} {act : Action σ (Except ResultCode α)} (h : Raises P act)
    (code : ∀ code, P (.error (.configuration (.callFailed call code)))) : Raises P (Action.orFatal call act) :=
  h.bind fun answer => by
    cases answer with
    | ok a => exact pure a
    | error c => exact fail (code c)

theorem orOperational {call : String} {act : Action σ (Except ResultCode α)} (h : Raises P act)
    (code : ∀ code, P (.error (.vulkan call code))) : Raises P (Action.orOperational call act) :=
  h.bind fun answer => by
    cases answer with
    | ok a => exact pure a
    | error c => exact fail (code c)

end Raises

/-- Wherever the action is started, it gives a value that `R` holds of, if it gives one. -/
def Yields (R : α → Prop) (act : Action σ α) : Prop := ∀ s, act.Ends s fun r _ => ∀ a, r = .ok a → R a

theorem Yields.pure {R : α → Prop} {a : α} (h : R a) : Yields R (pure a : Action σ α) := by
  rintro _ _ ⟨⟩
  exact h

theorem Yields.fail {R : α → Prop} (e : Error) : Yields R (Action.fail e : Action σ α) := fun _ => nofun

theorem Yields.ite {R : α → Prop} {p : Prop} [Decidable p] {x y : Action σ α} (hx : Yields R x) (hy : Yields R y) :
    Yields R (if p then x else y) := by
  split
  · exact hx
  · exact hy

theorem Yields.after {R : β → Prop} {act : Action σ α} {f : α → Action σ β} (h : ∀ a, Yields R (f a)) :
    Yields R (act >>= f) := fun s => by
  rw [ends_bind]
  refine .of_forall fun r s' => ?_
  cases r with
  | error f => exact nofun
  | ok a => exact h a s'

theorem Yields.bind {R : α → Prop} {R' : β → Prop} {act : Action σ α} {f : α → Action σ β} (h : Yields R act)
    (h' : ∀ a, R a → Yields R' (f a)) : Yields R' (act >>= f) := fun s => by
  rw [ends_bind]
  refine (h s).mono fun r s' hr => ?_
  cases r with
  | error f => exact nofun
  | ok a => exact h' a (hr a rfl) s'

theorem Yields.onFailure {R : α → Prop} {act : Action σ α} {cleanup : Action σ Unit} (h : Yields R act) :
    Yields R (Action.onFailure act cleanup) := fun s => by
  rw [ends_onFailure]
  refine (h s).mono fun r s' hr => ?_
  cases r with
  | ok a => exact hr
  | error f => exact .of_forall fun c _ => by cases c <;> exact nofun

/-- Nothing that a step gives that is taken only under a condition is in the value. -/
theorem Yields.optional {R : α → Prop} {p : Prop} [Decidable p] {x : Action σ PUnit} {f : PUnit → Action σ α}
    (h : ∀ a, Yields R (f a)) : Yields R (if p then x >>= f else f ()) :=
  .ite (.after h) (h ())

end Action

end CopyBench
