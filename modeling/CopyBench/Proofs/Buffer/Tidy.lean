import CopyBench.Proofs.Buffer.Booking
import CopyBench.Proofs.Buffer.Requests
import CopyBench.Proofs.Pool.Acquiring
import CopyBench.Proofs.Pool.Ring
/-!
# Copies while no slot is open

What is done with buffers leaves no slot open, unless a call fails that should have ended its recording. As
long as none is open, a copy between buffers that is waited for makes one submission with a fence and moves
no bytes but its own.
-/

namespace CopyBench

open CopyBench.Action

open Machine (BufferSteps DeviceSteps SameMemory)

variable {m m' : Machine} {p : CommandPool} {s : Session} {index : Nat} {b : Handle}

/-! ## No slot is open -/

/-- Only slot `index` may be open. -/
def CommandPool.ShutBut (p : CommandPool) (index : Nat) : Prop :=
  ∀ (j : Nat) (slot : Slot), p.slots[j]? = some slot → slot.state = .recording → j = index

/-- No slot is open. -/
def CommandPool.Shut (p : CommandPool) : Prop :=
  ∀ (j : Nat) (slot : Slot), p.slots[j]? = some slot → slot.state ≠ .recording

theorem CommandPool.stableShut_shut : StableShut Shut := by
  intro p index state shut h j slot hslot
  rw [Session.slots_setState, List.getElem?_modify] at hslot
  obtain ⟨slot', hslot', heq⟩ := Option.map_eq_some_iff.1 hslot
  subst heq
  split
  · exact shut
  · exact h j slot' hslot'

theorem CommandPool.ShutBut.setState {state : SlotState} (h : p.ShutBut index) (shut : state ≠ .recording) :
    (p.setState index state).Shut := by
  intro j slot hslot
  rw [Session.slots_setState, List.getElem?_modify] at hslot
  obtain ⟨slot', hslot', heq⟩ := Option.map_eq_some_iff.1 hslot
  subst heq
  split
  case isTrue => exact shut
  case isFalse other =>
    intro opened
    exact other (h j slot' hslot' opened).symm

/-- A recording was to be ended, and was not. -/
def Event.breaks (event : Event) : Bool :=
  match event.call, event.reply with
  | .endCommandBuffer _, .failed _ => true
  | _, _ => false

/-- No call has failed that was to end a recording, as when nothing has failed at all. -/
def Machine.Unbroken (m : Machine) : Prop := ∀ event ∈ m.trace.toList, event.breaks = false

instance (m : Machine) : Decidable m.Unbroken :=
  inferInstanceAs (Decidable (∀ event ∈ m.trace.toList, event.breaks = false))

theorem Machine.Unbroken.of_steps (h : m'.Unbroken) (steps : DeviceSteps m m') : m.Unbroken := by
  obtain ⟨more, trace⟩ := steps.grown
  exact fun event hmem => h event (trace ▸ List.mem_append_left _ hmem)

theorem Machine.copied_of_replay {copy : RecordedCopy} (replayed : Machine.replay [copy] m = (m', none)) :
    m.copied copy = .ok m' := by
  unfold replay at replayed
  cases h : m.copied copy with
  | error cause =>
    rw [h] at replayed
    cases replayed
  | ok m₁ =>
    rw [h] at replayed
    cases replayed
    rfl

namespace Session

/-- The ring points at a slot, and no slot is open unless a call failed to end one. -/
structure Tidy (s : Session) : Prop where
  ring : s.pool.cursor < s.pool.slots.length
  shut : s.machine.Unbroken → s.pool.Shut

/-- A flush closes its slot, unless that cannot be ended. -/
theorem ends_flush_shut (hslot : s.pool.slots[index]? = some ⟨b, .recording⟩) (others : s.pool.ShutBut index)
    (wait : Bool) : (flush index wait).Ends s fun _ s' => s'.machine.Unbroken → s'.pool.Shut := by
  rw [ends_flush_open s hslot rfl]
  cases s.machine.fault .endCommandBuffer with
  | some code =>
    refine fun unbroken => absurd (unbroken ⟨.endCommandBuffer b, .failed code⟩ ?_) Bool.noConfusion
    rw [Machine.trace_refuse, Array.toList_push]
    exact List.mem_append_right _ (List.mem_singleton.2 rfl)
  | none =>
    have shut : (s.pool.setState index .executable).Shut := others.setState (by decide)
    exact (stays_submission CommandPool.stableShut_shut index b wait _ shut).mono fun _ _ shut _ => shut

/-- A slot was just begun, and is the only one that is open. No byte has moved, and nothing was submitted. -/
structure Begun (s : Session) (b : Handle) (s' : Session) : Prop where
  slot : s'.pool.slots[s.pool.cursor]? = some ⟨b, .recording⟩
  others : s'.pool.ShutBut s.pool.cursor
  empty : s'.machine.work b = []
  same : s.machine.SameMemory s'.machine
  fenced : s'.machine.counters.fencedSubmits = s.machine.counters.fencedSubmits

/-- A waiting flush of an open slot that succeeds submits once, with a fence. -/
theorem Transcript.submits {queue : Handle} {more : List Event} {state : SlotState}
    (h : Transcript queue b true .recording more (.ok ()) state) :
    submitted more = [b] ∧ more.countP Event.fenced = 1 := by
  cases h with
  | ended rest =>
    cases rest with
    | fenced fence rest =>
      cases rest
      exact ⟨rfl, rfl⟩

theorem Reopens.plain {queue : Handle} {state : SlotState} {more : List Event}
    (h : Reopens queue b state more) (closed : state ≠ .recording) :
    submitted more = [] ∧ more.countP Event.fenced = 0 := by
  cases h with
  | rested | drained => exact ⟨rfl, rfl⟩
  | flushed => exact absurd rfl closed

/-- While no slot is open, an acquire begins one or leaves all of them closed. -/
theorem ends_acquire_begun (ring : s.pool.cursor < s.pool.slots.length) (shut : s.pool.Shut) :
    acquire.Ends s fun r s' =>
      match r with
      | .ok (index, b) => index = s.pool.cursor ∧ Begun s b s'
      | .error _ => s'.pool.Shut := by
  have hslot := List.getElem?_eq_getElem ring
  have closed := shut _ _ hslot
  refine (ends_acquire_shut hslot closed).mono fun r s' h => ?_
  obtain ⟨-, -, state, left, opens⟩ := h
  cases opens with
  | failed => exact CommandPool.stableShut_shut _ _ _ (fun opened => closed (left opened)) shut
  | @opened more m calls reopens =>
    obtain ⟨unsubmitted, unfenced⟩ := reopens.plain closed
    refine ⟨rfl, ?_⟩
    constructor
    case slot => exact slot_setState _ hslot
    case others =>
      intro j slot hj opened
      obtain ⟨same, -⟩ | ⟨-, hj⟩ := slot_setState_cases hslot hj
      · exact same
      · exact absurd opened (shut j slot hj)
    case empty => rw [Machine.work_began, if_pos rfl]
    case same =>
      obtain ⟨n, hn, same⟩ := calls.delivered.bytes
      rw [unsubmitted] at hn
      cases hn
      exact ⟨same.bindings, same.memories⟩
    case fenced =>
      have fenced := calls.delivered.fenced
      rwa [unfenced, Nat.add_zero] at fenced

/-- A copy between buffers closes the slot that it took. -/
theorem ends_copyFrom_shut (ring : s.pool.cursor < s.pool.slots.length) (shut : s.pool.Shut)
    (buffer source : BoundBuffer) (region : Region) (wait : Bool) :
    (StagedBuffer.copyFrom buffer source region wait).Ends s fun _ s' =>
      s'.machine.Unbroken → s'.pool.Shut := by
  rw [StagedBuffer.ends_copyFrom]
  refine (ends_acquire_begun ring shut).mono fun r s₁ h => ?_
  rcases r with f | ⟨index, b⟩
  · exact fun _ => h
  · obtain ⟨rfl, begun⟩ := h
    exact ends_flush_shut (s := { s₁ with machine := s₁.machine.queued b ⟨source.handle, buffer.handle, region⟩ })
      begun.slot begun.others wait

/-- Whatever is done with buffers, no slot stays open unless a call failed to end it. -/
theorem upheld_tidy : Upheld Tidy where
  stable s m steps h := ⟨h.ring, fun unbroken => h.shut (unbroken.of_steps steps.device)⟩
  copies buffer source region wait s h := by
    have steps := (upheld_steps s.machine).copies buffer source region wait s .refl
    have keeps := (upheld_keeps s.pool).copies buffer source region wait s (.refl _)
    by_cases shut : s.pool.Shut
    · refine (keeps.and (ends_copyFrom_shut h.ring shut buffer source region wait)).mono fun r s' h' => ?_
      exact ⟨h'.1.cursor h.ring, h'.2⟩
    · refine (keeps.and steps).mono fun r s' h' => ⟨h'.1.cursor h.ring, fun unbroken => ?_⟩
      exact absurd (h.shut (unbroken.of_steps h'.2)) shut

/-- While no slot is open, a copy that is waited for with success is executed at once and is the only one:
one submission has a fence, and no bytes move besides. -/
theorem ends_copyFrom_alone (ring : s.pool.cursor < s.pool.slots.length) (shut : s.pool.Shut)
    (buffer source : BoundBuffer) (region : Region) :
    (StagedBuffer.copyFrom buffer source region true).Ends s fun r s' => r = .ok () →
      (∃ m, s.machine.copied ⟨source.handle, buffer.handle, region⟩ = .ok m ∧ m.SameMemory s'.machine) ∧
        s'.machine.counters.fencedSubmits = s.machine.counters.fencedSubmits + 1 := by
  rw [StagedBuffer.ends_copyFrom]
  refine (ends_acquire_begun ring shut).mono fun r s₁ h => ?_
  rcases r with f | ⟨index, b⟩
  · rintro ⟨⟩
  obtain ⟨rfl, begun⟩ := h
  let copy : RecordedCopy := ⟨source.handle, buffer.handle, region⟩
  let s₂ : Session := { s₁ with machine := s₁.machine.queued b copy }
  have work : s₂.machine.work b = [copy] := by
    rw [Machine.work_queued, if_pos rfl, begun.empty, List.nil_append]
  have same : s.machine.SameMemory s₂.machine := ⟨begun.same.bindings, begun.same.memories⟩
  by_cases can : s₂.machine.CanCopy copy
  · have sound : ∀ copy ∈ s₂.machine.work b, s₂.machine.CanCopy copy := by
      rw [work]
      exact List.forall_mem_singleton.2 can
    refine (ends_flush_transcript (s := s₂) begun.slot (fun _ => sound) true).mono fun r s' h hr => ?_
    obtain ⟨more, state, transcript, advance⟩ := h
    subst hr
    obtain ⟨submits, once⟩ := transcript.submits
    obtain ⟨m, replayed, moved⟩ := advance.machine.bytes
    have fenced := advance.machine.fenced
    rw [once] at fenced
    refine ⟨?_, fenced.trans (congrArg (· + 1) begun.fenced)⟩
    rw [submits, List.flatMap_singleton, work] at replayed
    have copied := Machine.copied_of_replay replayed
    obtain ⟨cause, -, crashed⟩ | ⟨m₁, m₂, copied₁, copied₂, same⟩ := same.copied copy
    · cases copied.symm.trans crashed
    · cases copied.symm.trans copied₂
      exact ⟨m₁, copied₁, same.trans moved⟩
  · refine (ends_flush_replayed (s := s₂) begun.slot).mono fun r s' h hr => absurd ?_ can
    obtain ⟨m, replayed, -⟩ := h hr
    rw [work] at replayed
    exact Machine.canCopy_of_copied (Machine.copied_of_replay replayed)

end Session

namespace StagedBuffer

/-- What a fill that succeeds has done while no slot was open: a staging buffer was found or built, copied by
the only submission with a fence, and possibly released. -/
structure FilledAlone (m : Machine) (b : StagedBuffer) (contents : Contents) (m' : Machine) : Prop where
  uploaded : ∃ b₁ staging m₁ m₂ m₃, Prepared m b contents b₁ staging m₁ ∧
    m₁.copied (b.uploading staging) = .ok m₂ ∧ m₂.SameMemory m₃ ∧
    m₃.counters.fencedSubmits = m₁.counters.fencedSubmits + 1 ∧
    (m' = m₃ ∨ m' = (m₃.destroyed staging.handle).freed staging.memory)

theorem ends_fill_alone (ring : s.pool.cursor < s.pool.slots.length) (shut : s.pool.Shut) (b : StagedBuffer)
    (contents : Contents) (discard : Bool) :
    (b.fill contents discard).Ends s fun r s' => ∀ b', r = .ok (b', .ok ()) →
      FilledAlone s.machine b contents s'.machine := by
  refine ends_fill_prepared b contents discard s (by rintro f m - - - _ ⟨⟩) fun b₁ staging m₁ _ prepared => ?_
  refine (Session.ends_copyFrom_alone (s := { s with machine := m₁ }) ring shut ..).mono fun r s₂ h => ?_
  cases r with
  | error f => rintro _ ⟨⟩
  | ok _ =>
    obtain ⟨⟨m, copied, moved⟩, fenced⟩ := h rfl
    dsimp only
    split
    · exact fun _ _ => ⟨_, staging, _, m, _, prepared, copied, moved, fenced, .inr rfl⟩
    · exact fun _ _ => ⟨_, staging, _, m, _, prepared, copied, moved, fenced, .inl rfl⟩

end StagedBuffer

namespace Workspace

/-- A run keeps its pool. -/
theorem Run.Steps.keeps {run run' : Run} (steps : Run.Steps run run') :
    run.workspace.session.pool.Keeps run'.workspace.session.pool :=
  steps.maintain (Session.upheld_keeps run.workspace.session.pool)
    (fun operation => Session.rings_perform operation) (.refl _)

/-- Where a pool was just made, no slot is open. -/
theorem New.tidy {start : Workspace} (new : start.New) : start.session.Tidy := by
  obtain ⟨-, profile, schedule, lostSubmits, lostWaits, device, queue, depth, family, level, created⟩ := new
  obtain ⟨idle, -⟩ := CommandPool.slots_of_create created
  obtain ⟨-, positive, hpool, -⟩ := CommandPool.create_eq created
  constructor
  case ring =>
    rw [hpool]
    simpa [CommandPool.fresh] using Nat.pos_of_ne_zero positive
  case shut =>
    intro _ j slot hslot
    rw [idle slot (List.mem_of_getElem? hslot)]
    decide

end Workspace

end CopyBench
