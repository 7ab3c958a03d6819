import CopyBench.Proofs.Action
import CopyBench.Suite.CopyBuffer
/-!
# A measurement that is watched

Each timed copy of a measurement leaves the same octets, so what it did cannot be seen from where the
measurement ends. The watched measurement notes it: beside the state it keeps a list of where each timed
copy that succeeded began and where it ended. Forgetting the list, it is the measurement.
-/

namespace CopyBench

namespace Action

variable {σ τ α β : Type}

/-- Runs an action on the first part of a pair. When it succeeds, where it began and where it ended is
noted in the second. -/
def noting (act : Action σ α) : Action (σ × List (σ × σ)) α := fun s =>
  match act s.1 with
  | .ok a after => .ok a (after, s.2 ++ [(s.1, after)])
  | .error f after => .error f (after, s.2)

@[simp] theorem ends_noting (act : Action σ α) (s : σ × List (σ × σ))
    (Q : Except Failure α → σ × List (σ × σ) → Prop) :
    (noting act).Ends s Q ↔ act.Ends s.1 fun r after =>
      match r with
      | .ok a => Q (.ok a) (after, s.2 ++ [(s.1, after)])
      | .error f => Q (.error f) (after, s.2) := by
  unfold Ends noting
  rcases act s.1 with ⟨a, after⟩ | ⟨f, after⟩ <;> rfl

/-- An action observes another when, forgetting the second part of the state, it ends as that does. -/
def Observes (act' : Action (σ × τ) α) (act : Action σ α) : Prop :=
  ∀ s (Q : Except Failure α → σ → Prop), (act'.Ends s fun r s' => Q r s'.1) ↔ act.Ends s.1 Q

namespace Observes

variable {act : Action σ α} {act' : Action (σ × τ) α} {f : α → Action σ β} {f' : α → Action (σ × τ) β}
  {cleanup : Action σ Unit} {cleanup' : Action (σ × τ) Unit}

theorem pure (a : α) : @Observes σ τ α (Pure.pure a) (Pure.pure a) := fun _ _ => Iff.rfl

theorem conclude (r : Except Failure α) : @Observes σ τ α (Action.conclude r) (Action.conclude r) := fun s Q => by
  rw [ends_conclude, ends_conclude]

theorem onFirst (act : Action σ α) : @Observes σ τ α (Action.onFirst act) act := fun s Q => by
  rw [ends_onFirst]

theorem noting (act : Action σ α) : Observes (Action.noting act) act := fun s Q => by
  rw [ends_noting]
  apply ends_congr
  rintro (f | a) after <;> rfl

theorem bind (h : Observes act' act) (h' : ∀ a, Observes (f' a) (f a)) : Observes (act' >>= f') (act >>= f) :=
  fun s Q => by
    rw [ends_bind, ends_bind, ← h]
    apply ends_congr
    rintro (f | a) s'
    · rfl
    · exact h' a s' Q

theorem ensuring (h : Observes act' act) (h' : Observes cleanup' cleanup) :
    Observes (act'.ensuring cleanup') (act.ensuring cleanup) := fun s Q => by
  rw [ends_ensuring, ends_ensuring, ← h]
  apply ends_congr
  intro r s'
  rw [← h']

/-- What is known where the observer ends is known where the action itself ends, with what it forgets. -/
theorem ends (h : Observes act' act) {s : σ × τ} {P : Except Failure α → σ × τ → Prop} (hP : act'.Ends s P) :
    act.Ends s.1 fun r s₁ => ∃ t, (act'.Ends s fun r' s' => r' = r ∧ s' = (s₁, t)) ∧ P r (s₁, t) := by
  rw [← h]
  refine ((ends_self act' s).and hP).mono fun r s' known => ?_
  exact ⟨s'.2, known⟩

end Observes

end Action

namespace CopyBuffer

open CopyBench.Action (Observes)

/-- A measurement on a session that lies within the state, with other copies in place of the timed ones. -/
def measureBy {σ : Type} (onSession : ∀ {α : Type}, Action Session α → Action σ α)
    (copies : BoundBuffer → BoundBuffer → Action σ Unit) (arguments : CopyArguments) : Action σ Unit := do
  let source ← onSession (StagedBuffer.create (sourceSpec arguments.size))
  let destination ← onSession
    ((StagedBuffer.create (destinationSpec arguments.size)).onFailure source.release)
  let ((source, destination), filled) ← onSession (fillBoth arguments.contents source destination)
  let measuring : Action σ Unit := do
    Action.conclude filled
    onSession (logStart arguments destination)
    copies source.main destination.main
    onSession (logEnd source destination)
  measuring.ensuring (onSession (releaseBoth source destination))

variable {arguments : CopyArguments} {timing : Timing}

theorem measure_eq_measureBy : measure arguments timing = measureBy Action.onFirst
    (fun source destination => timedCopies source destination arguments timing 0 arguments.iterations) arguments :=
  rfl

/-- Where a timed copy began and where it ended. -/
abbrev Sighting := (Session × Statistics) × (Session × Statistics)

/-- Times copies as `timedCopies` does, and notes each that succeeds. -/
def watchedCopies (source destination : BoundBuffer) (arguments : CopyArguments) (timing : Timing) :
    Nat → Nat → Action ((Session × Statistics) × List Sighting) Unit
  | _, 0 => pure ()
  | k, n + 1 => do
    Action.noting (Action.onFirst (StagedBuffer.copyFrom destination source ⟨0, 0, arguments.size⟩ true))
    Action.onFirst (Statistics.pushSample (timing k) arguments.size arguments.tag)
    watchedCopies source destination arguments timing (k + 1) n

/-- A measurement that notes its timed copies. -/
def measureWatched (arguments : CopyArguments) (timing : Timing) :
    Action ((Session × Statistics) × List Sighting) Unit :=
  measureBy (fun act => Action.onFirst (Action.onFirst act))
    (fun source destination => watchedCopies source destination arguments timing 0 arguments.iterations) arguments

theorem observes_watchedCopies (source destination : BoundBuffer) (n : Nat) : ∀ k,
    (watchedCopies source destination arguments timing k n).Observes
      (timedCopies source destination arguments timing k n) := by
  induction n with
  | zero => exact fun k => .pure ()
  | succ n ih =>
    intro k
    rw [watchedCopies, timedCopies]
    exact (Observes.noting _).bind fun _ => (Observes.onFirst _).bind fun _ => ih (k + 1)

/-- Forgetting what it notes, the watched measurement is the measurement. -/
theorem observes_measureWatched : (measureWatched arguments timing).Observes (measure arguments timing) := by
  rw [measure_eq_measureBy]
  unfold measureWatched measureBy
  refine (Observes.onFirst _).bind fun source => ?_
  refine (Observes.onFirst _).bind fun destination => ?_
  refine (Observes.onFirst _).bind fun ((source, destination), filled) => ?_
  refine Observes.ensuring ?_ (.onFirst _)
  refine (Observes.conclude filled).bind fun _ => (Observes.onFirst _).bind fun _ => ?_
  exact (observes_watchedCopies source.main destination.main arguments.iterations 0).bind fun _ => .onFirst _

end CopyBuffer

end CopyBench
