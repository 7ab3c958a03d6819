import CopyBench.Proofs.Bootstrap.Failures
import CopyBench.Proofs.Buffer.Failures
import CopyBench.Proofs.Buffer.Tidy
import CopyBench.Proofs.Suite.Trial
/-!
# How grave errors are

Bringing something up fails fatally and using it does not. What a trial makes of an error depends on that
alone: a fatal error of its setup or run ends it, and any other becomes its result.
-/

namespace CopyBench

open CopyBench.Action

/-! ## Failed flushes -/

namespace Error

/-- The error that a flush failed with first. -/
def innermost : Error → Error
  | flushFailed _ source => source.innermost
  | e => e

theorem innermost_ne_flushFailed (e : Error) : ∀ index source, e.innermost ≠ flushFailed index source := by
  induction e with
  | flushFailed _ source ih => exact ih
  | configuration | slotAlreadyOpen | slotNotOpen | slotOutOfRange | mapRange | vulkan => exact nofun

/-- A failed flush is as grave as what it failed with first. -/
theorem isFatal_innermost (e : Error) : e.innermost.isFatal = e.isFatal := by
  induction e with
  | flushFailed _ source ih => exact ih
  | configuration | slotAlreadyOpen | slotNotOpen | slotOutOfRange | mapRange | vulkan => rfl

end Error

/-! ## Trials -/

namespace Backend

variable {σ β α : Type}

/-- In a trial from `s` the setup, or the run after a setup that succeeded, ends with the error `e`. -/
def Errs (impl : Backend σ β α) (arguments : α) (noop : Bool) (s : (σ × β) × Statistics) (e : Error) : Prop :=
  noop = false ∧ (impl.setup arguments).Ends (impl.tag arguments s.1).2 fun answer ready =>
    answer = .error (.error e) ∨ answer = .ok true ∧
      (impl.run arguments).Ends (ready, s.2.retag (impl.tag arguments s.1).1) fun outcome _ =>
        outcome = .error (.error e)

variable [Console σ]

/-- A trial ends with an error exactly when its setup or run did with a fatal one, and has the result that
says error exactly when that was not fatal. -/
theorem ends_execute_errs (impl : Backend σ β α) (arguments : α) (noop : Bool) (s : (σ × β) × Statistics) :
    (impl.execute arguments noop).Ends s fun r _ =>
      (∀ e, r = .error (.error e) ↔ impl.Errs arguments noop s e ∧ e.isFatal = true) ∧
        (r = .ok .error ↔ ∃ e, impl.Errs arguments noop s e ∧ e.isFatal = false) := by
  cases noop with
  | true =>
    rw [ends_execute_dry]
    simp [Errs]
  | false =>
    rw [ends_execute]
    unfold Errs
    -- Each way in which the setup and the run can end leaves one error, or none, to compare with.
    rcases hsetup : impl.setup arguments (impl.tag arguments s.1).2 with ⟨_ | _, ready⟩ | ⟨e | p, ready⟩
    · simp only [ends_of_ok hsetup]
      simp
    · simp only [ends_of_ok hsetup]
      rcases hrun : impl.run arguments (ready, s.2.retag (impl.tag arguments s.1).1) with ⟨_, after⟩ | ⟨e | p, after⟩
      · simp only [ends_of_ok hrun]
        simp
      · simp only [ends_of_error hrun]
        cases hfatal : e.isFatal <;> simp [hfatal]
      · simp only [ends_of_error hrun]
        simp
    · simp only [ends_of_error hsetup]
      cases hfatal : e.isFatal <;> simp [hfatal]
    · simp only [ends_of_error hsetup]
      simp

end Backend

/-! ## Runs -/

namespace Workspace

/-- What the calls in a workspace can fail with, and those that make what is used there. -/
structure Graded (w : Workspace) : Prop where
  /-- Beginning, ending and flushing slots, acquiring and closing them have no fatal error. -/
  operation : ∀ operation, (Session.perform operation).Ends w.session fun r _ =>
    ∀ e, r = .error (.error e) → e.isFatal = false
  copy : ∀ buffer source region wait, (StagedBuffer.copyFrom buffer source region wait).Ends w.session fun r _ =>
    ∀ e, r = .error (.error e) → e.isFatal = false
  map : ∀ buffer offset size, (BoundBuffer.map buffer offset size).Ends w.session.machine fun r _ =>
    ∀ e, r = .error (.error e) → e.isFatal = false
  /-- The slot that is acquired is there, and is open no more once it is flushed. -/
  acquire : Session.acquire.Ends w.session fun r _ =>
    ∀ e, r = .error (.error e) → ∃ call code, e = .vulkan call code
  copyByDevice : ∀ buffer source region wait,
    (StagedBuffer.copyFrom buffer source region wait).Ends w.session fun r _ =>
      ∀ e, r = .error (.error e) → ∃ call code, e = .vulkan call code
  fill : ∀ (buffer : StagedBuffer) contents discard, (buffer.fill contents discard).Ends w.session fun r _ =>
    ∃ after result, r = .ok (after, result) ∧ ∀ e, result = .error (.error e) → buffer.Unfilled w.session e
  createPool : ∀ device queue depth family level m,
    (CommandPool.create device queue depth family level).Ends m fun r _ =>
      ∀ e, r = .error (.error e) → e.isFatal = true
  createBuffer : ∀ spec s, (StagedBuffer.create spec).Ends s fun r _ =>
    ∀ e, r = .error (.error e) → e.isFatal = true
  createContext : ∀ platform config m, (Context.create platform config).Ends m fun r _ =>
    ∀ e, r = .error (.error e) → e.isFatal = true

theorem graded_of_cursor {w : Workspace} (ring : w.session.pool.cursor < w.session.pool.slots.length) : Graded w where
  operation operation := (Session.raises_perform operation w.session).mono fun _ _ h _ he => h _ he
  copy buffer source region wait := (StagedBuffer.raises_copyFrom buffer source region wait w.session).mono
    fun _ _ h _ he => h _ he
  map buffer offset size := (buffer.raises_map offset size w.session.machine).mono fun _ _ h _ he => (h _ he).mild
  acquire := (Session.ends_acquire_operational ring).mono fun _ _ h _ he => (h _ he).exists_code
  copyByDevice buffer source region wait :=
    (StagedBuffer.ends_copyFrom_operational ring buffer source region wait).mono fun _ _ h _ he =>
      (h _ he).exists_code
  fill buffer contents discard := StagedBuffer.ends_fill_failures ring buffer contents discard
  createPool device queue depth family level m :=
    (CommandPool.raises_create device queue depth family level m).mono fun _ _ h _ he => (h _ he).isFatal
  createBuffer spec s := (StagedBuffer.raises_create spec s).mono fun _ _ h _ he => (h _ he).isFatal
  createContext platform config m := (Context.raises_create platform config m).mono fun _ _ h _ he => (h _ he).isFatal

/-- Wherever a run with a pool that was made leads, the calls there fail as gravely as they should; a failed
flush is as grave as what it failed with first; and a trial of any backend ends with an error exactly when its
setup or run did with a fatal one. -/
theorem graded_of_steps {start run : Run} {device : Device} {queue : Handle} {depth : Nat} {family : UInt32}
    {level : Int} {m m' : Machine}
    (made : CommandPool.create device queue depth family level m = .ok start.workspace.session.pool m')
    (steps : Run.Steps start run) :
    Graded run.workspace ∧ (∀ e : Error, e.innermost.isFatal = e.isFatal) ∧
      ∀ {σ β α : Type} [Console σ] (impl : Backend σ β α) (arguments : α) (noop : Bool)
        (s : (σ × β) × Statistics), (impl.execute arguments noop).Ends s fun r _ =>
          (∀ e, r = .error (.error e) ↔ impl.Errs arguments noop s e ∧ e.isFatal = true) ∧
            (r = .ok .error ↔ ∃ e, impl.Errs arguments noop s e ∧ e.isFatal = false) := by
  refine ⟨graded_of_cursor (steps.keeps.cursor ?_), Error.isFatal_innermost, Backend.ends_execute_errs⟩
  obtain ⟨-, hdepth, hpool, -⟩ := CommandPool.create_eq made
  rw [hpool]
  simpa [CommandPool.fresh] using Nat.pos_of_ne_zero hdepth

/-- A run on one slot, in which a fill finds no fence. -/
theorem graded_unfenced :
    let start : Run := { workspace := hosted { schedule := .losesFirst .createFence } 1 }
    let held := start.performed (.create "a" (.deviceLocal 4 Usage.transferDestination))
    let filled := held.performed (.fill "a" .increasing true)
    CommandPool.create { memoryTypes := [MemoryProperty.deviceLocal, 6] } 1 1 0 0
        { schedule := .losesFirst .createFence } =
      .ok start.workspace.session.pool start.workspace.session.machine ∧ Graded filled.workspace := by
  intro start held filled
  have present : ({ memoryTypes := [MemoryProperty.deviceLocal, 6] } : Device).isNull = false := rfl
  have made := CommandPool.create_ok present 1
    Nat.one_pos 0 0 (m := { schedule := .losesFirst .createFence }) (by decide +kernel) (by decide +kernel)
  have steps : Run.Steps start filled := (Relation.ReflTransGen.single (.perform _)).tail (.perform _)
  exact ⟨made, (graded_of_steps made steps).1⟩

end Workspace

end CopyBench
