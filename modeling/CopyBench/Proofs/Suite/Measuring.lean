import CopyBench.Proofs.Buffer.Filling
import CopyBench.Proofs.Sample.Summary
import CopyBench.Suite.CopyBuffer
/-!
# Measuring whatever fails

A measurement fills two buffers, copies between them, and releases both however that ends. When it
parts, either no slot holds copies, or one slot holds a copy to a buffer that is destroyed.
-/

namespace CopyBench

open CopyBench.Action CopyBench.Session

variable {start : Machine} {events more more' : List Event} {targets : List Handle} {s s' s₁ : Session}

namespace Session

/-- What is left in the slots when the buffers of a series of copies are gone. -/
inductive Parted (start : Machine) (events more : List Event) : Except Failure Unit → Session → Prop where
  | spent {r : Except Failure Unit} {s' : Session}
      (broke : ∀ e, r = .error (.error e) → e.Interrupts → Crashed more) (spent : Spent start s') :
    Parted start events more r s'
  /-- One slot holds a copy to a buffer that is destroyed. -/
  | left {e : Error} {s' : Session} {index : Nat} {slot : Slot} {copy : RecordedCopy}
      (interrupts : e.Interrupts) (calm : ¬Crashed more) (leaves : Leaves start s' index slot copy)
      (gone : Destroyed (events ++ more) copy.destination) :
    Parted start events more (.error (.error e)) s'

/-- The way from a session at rest to where its buffers are gone. -/
structure Departure (start : Machine) (events more : List Event) (r : Except Failure Unit) (s' : Session) :
    Prop where
  orderly : Machine.Orderly start (events ++ more) s'.machine
  fresh : Stale (events ++ more) ↔ Stale events
  tame : ∀ p, r ≠ .error (.panic p)
  parted : Parted start events more r s'

/-- Copies whose targets are destroyed afterwards. -/
theorem Passage.depart {r : Except Failure Unit} (h : Passage start events targets s more r s₁)
    {touched : List Handle} {m : Machine} (upkeep : Machine.Upkeep s₁.machine touched more' m)
    (gone : ∀ target ∈ targets, Destroyed more' target) :
    Departure start events (more ++ more') r ⟨m, s₁.pool⟩ := by
  refine ⟨List.append_assoc .. ▸ h.onward.orderly.upkeep upkeep, ?_, ?_, ?_⟩
  · rw [← List.append_assoc, stale_append_plain upkeep.plain, h.fresh]
  · rintro p rfl
    nomatch h.fared
  · cases h.fared with
    | done calm rested => exact .spent nofun (rested.toSpent.upkeep upkeep)
    | failed broke spent =>
      refine .spent (fun e he interrupts => ?_) (spent.upkeep upkeep)
      cases he
      exact (crashed_append ..).2 (.inl (broke interrupts))
    | left interrupts calm leaves target =>
      refine .left interrupts ?_ (leaves.upkeep upkeep)
        (List.mem_append_right _ (List.mem_append_right _ (gone _ target)))
      rw [crashed_append]
      exact not_or.2 ⟨calm, not_crashed_of_plain upkeep.plain⟩

end Session

/-! ## Timed copies -/

/-- Adding a sample does nothing to a machine but tell it of a tag that differs. -/
theorem Statistics.ends_pushSample (elapsed : Duration) (bytes : UInt64) (tag : Tag) (s : Session)
    (statistics : Statistics) :
    (pushSample elapsed bytes tag).Ends (s, statistics) fun r s' => r = .ok () ∧ s'.1.pool = s.pool ∧
      Machine.Upkeep s.machine [] [] s'.1.machine := by
  refine (ends_pushSample_push elapsed bytes tag s statistics).mono fun r s' h => ?_
  obtain ⟨rfl, -, told⟩ := h
  obtain same | ⟨note, same⟩ := told
  · rw [same]
    exact ⟨rfl, rfl, .refl _⟩
  · rw [same]
    exact ⟨rfl, rfl, Machine.upkeep_told _ _⟩

namespace CopyBuffer

/-- Copies from one bound buffer to another, each timed. -/
theorem ends_timedCopies {source destination : BoundBuffer} (target : destination.handle ∈ targets)
    (arguments : CopyArguments) (timing : Timing) (n : Nat) : ∀ (k : Nat) {events : List Event} {s : Session}
      (statistics : Statistics), Machine.Orderly start events s.machine → Rested start s →
        s.machine.Binds source → s.machine.Binds destination →
          (timedCopies source destination arguments timing k n).Ends (s, statistics) fun r s' =>
            ∃ more, Passage start events targets s more r s'.1 := by
  induction n with
  | zero => exact fun k events s statistics orderly rested _ _ => ⟨[], .refl orderly rested ()⟩
  | succ n ih =>
    intro k events s statistics orderly rested sourceBound bound
    rw [timedCopies, ends_bind, ends_onFirst]
    refine (ends_copyFrom_any orderly rested bound sourceBound _ target).mono fun r s₁ h => ?_
    obtain ⟨more, copied⟩ := h
    cases r with
    | error f => exact ⟨more, copied⟩
    | ok _ =>
      dsimp only
      rw [ends_bind]
      refine (Statistics.ends_pushSample (timing k) arguments.size arguments.tag s₁ statistics).mono
        fun r s₂ h => ?_
      obtain ⟨⟨m, pool⟩, statistics₂⟩ := s₂
      obtain ⟨rfl, rfl, told⟩ := h
      have pushed : Passage start events targets s (more ++ []) (.ok ()) ⟨m, s₁.pool⟩ :=
        copied.upkeep told nofun nofun
      refine (ih (k + 1) statistics₂ pushed.onward.orderly pushed.rested (pushed.onward.binds sourceBound)
        (pushed.onward.binds bound)).mono fun r s₃ h => ?_
      obtain ⟨more', later⟩ := h
      exact ⟨_, pushed.trans later⟩

/-! ## Both buffers -/

/-- Filling both buffers, of which neither has a staging buffer. -/
theorem ends_fillBoth (orderly : Machine.Orderly start events s.machine) (rested : Rested start s)
    {source destination : StagedBuffer} (sourceBound : s.machine.Binds source.main)
    (bound : s.machine.Binds destination.main) (sourceBare : source.staging = none)
    (bare : destination.staging = none) (contents : Contents) :
    (fillBoth contents source destination).Ends s fun r s' => ∃ source' destination' result more,
      r = .ok ((source', destination'), result) ∧
        Passage start events [source.main.handle, destination.main.handle] s more result s' ∧
          source.Kept source' s'.machine ∧ destination.Kept destination' s'.machine := by
  have sourceTarget : source.main.handle ∈ [source.main.handle, destination.main.handle] := by simp
  have target : destination.main.handle ∈ [source.main.handle, destination.main.handle] := by simp
  rw [fillBoth, ends_bind]
  refine (StagedBuffer.ends_fill_any orderly rested sourceBound sourceBare sourceTarget contents).mono
    fun r s₁ h => ?_
  obtain ⟨source', result, more, rfl, filled, kept⟩ := h
  cases result with
  | error f => exact ⟨_, _, _, more, rfl, filled, kept, .of_bare bare _⟩
  | ok _ =>
    dsimp only
    rw [ends_bind]
    refine (StagedBuffer.ends_fill_any filled.onward.orderly filled.rested (filled.onward.binds bound) bare
      target contents).mono fun r s₂ h => ?_
    obtain ⟨destination', result', more', rfl, filled', kept'⟩ := h
    exact ⟨_, _, _, _, rfl, filled.trans filled', kept.later filled'.onward.lastHandle, kept'⟩

/-- Releasing both buffers destroys them. -/
theorem upkeep_releaseBoth {source destination source' destination' : StagedBuffer}
    (sourceKept : source.Kept source' s.machine) (kept : destination.Kept destination' s.machine)
    (sourceLe : source.main.handle ≤ s.machine.lastHandle)
    (hle : destination.main.handle ≤ s.machine.lastHandle) :
    (releaseBoth source' destination').Ends s fun r s' => r = .ok () ∧ s'.pool = s.pool ∧
      ∃ touched more, Machine.Upkeep s.machine touched more s'.machine ∧
        ∀ target ∈ [source.main.handle, destination.main.handle], Destroyed more target := by
  rw [releaseBoth, ends_bind, ends_lift]
  refine (StagedBuffer.upkeep_release kept hle).mono fun r m h => ?_
  obtain ⟨rfl, touched, more, released, gone⟩ := h
  dsimp only
  rw [ends_lift]
  refine (StagedBuffer.upkeep_release (sourceKept.later released.lastHandle)
    (Nat.le_trans sourceLe released.lastHandle)).mono fun r m h => ?_
  obtain ⟨rfl, touched', more', released', gone'⟩ := h
  refine ⟨rfl, rfl, touched ++ touched', more ++ more', (released.weaken (by simp)).trans
    (released'.weaken (by simp)), ?_⟩
  simp only [List.mem_cons, List.not_mem_nil, or_false]
  rintro target (rfl | rfl)
  · exact List.mem_append_right _ gone'
  · exact List.mem_append_left _ gone

/-! ## The measurement -/

/-- The action does nothing to a session but tell its machine something. -/
def Tells (act : Action Session Unit) : Prop :=
  ∀ s, act.Ends s fun r s' => r = .ok () ∧ s'.pool = s.pool ∧ Machine.Upkeep s.machine [] [] s'.machine

theorem tells_logStart (arguments : CopyArguments) (destination : StagedBuffer) :
    Tells (logStart arguments destination) := fun s => by
  rw [logStart, ends_bind, ends_getPool]
  exact ⟨rfl, rfl, Machine.upkeep_told _ _⟩

theorem tells_logEnd (source destination : StagedBuffer) : Tells (logEnd source destination) := fun s => by
  rw [logEnd, ends_bind, ends_getPool]
  exact ⟨rfl, rfl, Machine.upkeep_told _ _⟩

/-- What is measured once the buffers are filled, or could not be. -/
theorem ends_measuring {filled : Except Failure Unit} (h : Passage start events targets s more filled s₁)
    {source destination : BoundBuffer} (sourceBound : s.machine.Binds source)
    (bound : s.machine.Binds destination) (target : destination.handle ∈ targets) (arguments : CopyArguments)
    (timing : Timing) (statistics : Statistics) {first last : Action Session Unit} (firstTells : Tells first)
    (lastTells : Tells last) :
    (do
      Action.conclude filled
      Action.onFirst first
      timedCopies source destination arguments timing 0 arguments.iterations
      Action.onFirst last : Action (Session × Statistics) Unit).Ends (s₁, statistics) fun r s' =>
        s₁.machine.lastHandle ≤ s'.1.machine.lastHandle ∧
          ∃ more, Passage start events targets s more r s'.1 := by
  rw [ends_bind, ends_conclude]
  cases filled with
  | error f => exact ⟨Nat.le_refl _, more, h⟩
  | ok _ =>
    dsimp only
    rw [ends_bind, ends_onFirst]
    refine (firstTells s₁).mono fun r s₂ h₂ => ?_
    obtain ⟨m, pool⟩ := s₂
    obtain ⟨rfl, rfl, told⟩ := h₂
    have started : Passage start events targets s (more ++ []) (.ok ()) ⟨m, s₁.pool⟩ := h.upkeep told nofun nofun
    dsimp only
    rw [ends_bind]
    refine (ends_timedCopies target arguments timing arguments.iterations 0 statistics started.onward.orderly
      started.rested (started.onward.binds sourceBound) (started.onward.binds bound)).mono fun r s₃ h₃ => ?_
    obtain ⟨more₃, timed⟩ := h₃
    have hle := Nat.le_trans told.lastHandle timed.onward.lastHandle
    cases r with
    | error f => exact ⟨hle, _, started.trans timed⟩
    | ok _ =>
      dsimp only
      rw [ends_onFirst]
      refine (lastTells s₃.1).mono fun r s₄ h₄ => ?_
      obtain ⟨m₄, pool⟩ := s₄
      obtain ⟨rfl, rfl, told₄⟩ := h₄
      exact ⟨Nat.le_trans hle told₄.lastHandle, _, (started.trans timed).upkeep told₄ nofun nofun⟩

/-- Whatever fails, a measurement hands over no copy whose buffers are destroyed. -/
theorem ends_measure (orderly : Machine.Orderly start events s.machine) (rested : Rested start s)
    (arguments : CopyArguments) (timing : Timing) (statistics : Statistics) :
    (measure arguments timing).Ends (s, statistics) fun r s' => ∃ more, Departure start events more r s'.1 := by
  rw [measure, ends_bind, ends_onFirst]
  refine (StagedBuffer.ends_create_any [] orderly rested (sourceSpec arguments.size)).mono fun r s₁ h => ?_
  obtain ⟨more, created, made⟩ := h
  cases r with
  | error f => exact ⟨_, created.error.depart (.refl _) nofun⟩
  | ok source =>
    obtain ⟨sourceBound, sourceBare⟩ := made source rfl
    dsimp only
    rw [ends_bind, ends_onFirst, ends_onFailure]
    refine (StagedBuffer.ends_create_any [] created.onward.orderly created.rested
      (destinationSpec arguments.size)).mono fun r s₂ h => ?_
    obtain ⟨more', created', made'⟩ := h
    have sourceBound' := created'.onward.binds sourceBound
    cases r with
    | error f =>
      dsimp only
      rw [ends_lift]
      refine (StagedBuffer.upkeep_release (.of_bare sourceBare _) sourceBound'.handle_le).mono fun r m h => ?_
      obtain ⟨rfl, touched, more₂, released, -⟩ := h
      exact ⟨_, (created.trans created').error.depart released nofun⟩
    | ok destination =>
      obtain ⟨bound, bare⟩ := made' destination rfl
      dsimp only
      rw [ends_bind, ends_onFirst]
      refine (ends_fillBoth created'.onward.orderly created'.rested sourceBound' bound sourceBare bare
        arguments.contents).mono fun r s₃ h => ?_
      obtain ⟨source', destination', filled, more₃, rfl, passage, sourceKept, kept⟩ := h
      dsimp only
      rw [ends_ensuring, kept.main, sourceKept.main]
      refine (ends_measuring passage sourceBound' bound (by simp) arguments timing statistics
        (tells_logStart arguments destination') (tells_logEnd source' destination')).mono fun r s₄ h => ?_
      obtain ⟨hle, more₄, measured⟩ := h
      rw [ends_onFirst]
      refine (upkeep_releaseBoth (sourceKept.later hle) (kept.later hle)
        (measured.onward.binds sourceBound').handle_le (measured.onward.binds bound).handle_le).mono
          fun r s₅ h => ?_
      obtain ⟨m, pool⟩ := s₅
      obtain ⟨rfl, rfl, touched, more₅, released, gone⟩ := h
      exact ⟨_, ((created.toward _).trans ((created'.toward _).trans measured)).depart released gone⟩

end CopyBuffer

end CopyBench
