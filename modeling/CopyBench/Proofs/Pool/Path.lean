import CopyBench.Proofs.Pool.Calls
import CopyBench.Proofs.Trace.Phase
/-!
# Paths of a session

A path leads from one session to another by single calls on the device, together with what the pool
notes down about each. It keeps the events of the calls. Every operation of a session extends a path
(`path_perform`), so what each step of a path preserves holds after any operations at all.
-/

namespace CopyBench.Session

open CopyBench.Action

/-- Open and ended slots hold only copies that can be executed. -/
def Sound (s : Session) : Prop :=
  ∀ (index : Nat) (slot : Slot), s.pool.slots[index]? = some slot →
    slot.state = .recording ∨ slot.state = .executable →
      ∀ copy ∈ s.machine.work slot.commandBuffer, s.machine.CanCopy copy

/-- Whether a slot may be begun: it is not open, and its device is done with it. -/
def MayBegin (events : List Event) (slot : Slot) : Prop :=
  slot.state ≠ .recording ∧
    (slot.state = .pending → (phase events slot.commandBuffer).busy = false)

/-- Whether the pool makes a call, by the states of its slots. -/
def Asks (events : List Event) (s : Session) : Call → Prop
  | .beginCommandBuffer b _ =>
    ∃ slot ∈ s.pool.slots, slot.commandBuffer = b ∧ MayBegin events slot
  | .endCommandBuffer b => ∃ slot ∈ s.pool.slots, slot.commandBuffer = b ∧ slot.state = .recording
  | .queueSubmit _ b _ => ∃ slot ∈ s.pool.slots, slot.commandBuffer = b ∧ slot.state = .executable
  | .copyBuffer _ _ _ _ => False
  | _ => True

/-- What leads from `start` to a session, with the events of the calls made on the way. -/
inductive Path (start : Session) : List Event → Session → Prop where
  | start : Path start [] start
  | told {events s} (note : Note) (path : Path start events s) :
    Path start events (Console.tell note s)
  | turned {events s} (cursor autoFlushes : Nat) (path : Path start events s) :
    Path start events { s with pool := { s.pool with cursor, autoFlushes } }
  | refused {events s} (point : Entrypoint) (call : Call) (code : ResultCode)
      (path : Path start events s) (asks : s.Asks events call) :
    Path start (events ++ [⟨call, .failed code⟩])
      { s with machine := s.machine.refuse point call code }
  | lost {events s} (point : Entrypoint) (call : Call) (code : ResultCode)
      (path : Path start events s) (asks : s.Asks events call) :
    Path start (events ++ [⟨call, .failed code⟩])
      { s with machine := s.machine.lost.refuse point call code }
  | drained {events s} (path : Path start events s) :
    Path start (events ++ [⟨.queueWaitIdle s.pool.queue, .done⟩])
      { s with machine := s.machine.drained s.pool.queue }
  | begun {events s} {index : Nat} {slot : Slot} (flags : UInt32) (path : Path start events s)
      (hslot : s.pool.slots[index]? = some slot) (may : MayBegin events slot) :
    Path start (events ++ [⟨.beginCommandBuffer slot.commandBuffer flags, .done⟩])
      { machine := s.machine.began slot.commandBuffer flags
        pool := s.pool.setState index .recording }
  | ended {events s} {index : Nat} {slot : Slot} (path : Path start events s)
      (hslot : s.pool.slots[index]? = some slot) (isOpen : slot.state = .recording) :
    Path start (events ++ [⟨.endCommandBuffer slot.commandBuffer, .done⟩])
      { machine := s.machine.ended slot.commandBuffer
        pool := s.pool.setState index .executable }
  | fenced {events s} (path : Path start events s) :
    Path start (events ++ [⟨.createFence, .handle (s.machine.lastHandle + 1)⟩])
      { s with machine := s.machine.fenced }
  | submitted {events s fence m} {index : Nat} {slot : Slot} (path : Path start events s)
      (hslot : s.pool.slots[index]? = some slot) (ready : slot.state = .executable)
      (run : s.machine.executed slot.commandBuffer fence = (m, none)) :
    Path start (events ++ [⟨.queueSubmit s.pool.queue slot.commandBuffer fence, .done⟩])
      { machine := m.traced (.queueSubmit s.pool.queue slot.commandBuffer fence) .done
        pool := s.pool.setState index .pending }
  | waited {events s} (fence : Handle) (timeout : UInt64) (path : Path start events s) :
    Path start (events ++ [⟨.waitForFence fence timeout, .done⟩])
      { s with machine := s.machine.waited fence timeout }
  | unfenced {events s} (fence : Handle) (path : Path start events s) :
    Path start (events ++ [⟨.destroyFence fence, .done⟩])
      { s with machine := s.machine.unfenced fence }
  | settled {events s} {index : Nat} {slot : Slot} (path : Path start events s)
      (hslot : s.pool.slots[index]? = some slot) (pending : slot.state = .pending)
      (complete : (phase events slot.commandBuffer).busy = false) :
    Path start events { s with pool := s.pool.setState index .idle }
  | queued {events s} {index : Nat} {slot : Slot} (copy : RecordedCopy) (path : Path start events s)
      (hslot : s.pool.slots[index]? = some slot) (isOpen : slot.state = .recording)
      (sound : s.machine.CanCopy copy) :
    Path start (events ++
        [⟨.copyBuffer slot.commandBuffer copy.source copy.destination copy.region, .done⟩])
      { s with machine := s.machine.queued slot.commandBuffer copy }

namespace Path

variable {start s : Session} {events : List Event}

/-- The trace grows by the events of the path. -/
theorem trace_eq (path : Path start events s) :
    s.machine.trace.toList = start.machine.trace.toList ++ events := by
  induction path with
  | start => simp
  | told | turned | settled => assumption
  | submitted path hslot ready run ih =>
    simp [Machine.trace_executed run, ih]
  | _ => simp [*]

/-- A path changes the states of the slots and the counts of the pool, and nothing else of it. -/
theorem pool_eq (path : Path start events s) :
    s.pool.device = start.pool.device ∧ s.pool.queue = start.pool.queue ∧
      s.pool.handle = start.pool.handle ∧
      s.pool.slots.map (·.commandBuffer) = start.pool.slots.map (·.commandBuffer) := by
  induction path with
  | start => exact ⟨rfl, rfl, rfl, rfl⟩
  | begun | ended | submitted | settled =>
    simpa only [commandBuffers_setState] using ‹_›
  | _ => assumption

theorem Sound.frame {s s' : Session} (h : s.Sound) (hslots : s'.pool.slots = s.pool.slots)
    (hwork : s'.machine.recorded = s.machine.recorded) (hshape : s.machine.SameShape s'.machine) :
    s'.Sound := by
  intro index slot hslot hstate copy hcopy
  rw [hslots] at hslot
  unfold Machine.work at hcopy
  rw [hwork] at hcopy
  exact (h index slot hslot hstate copy hcopy).of_sameShape hshape

/-- Open and ended slots hold only copies that can be executed. -/
theorem sound (path : Path start events s) (h : start.Sound) : s.Sound := by
  induction path with
  | start => exact h
  | told | turned | refused | lost | drained | fenced | waited | unfenced =>
    exact Sound.frame (by assumption) rfl rfl ⟨rfl, fun _ => rfl⟩
  | begun flags path hslot may ih =>
    intro j slot' hslot' hstate copy hcopy
    obtain ⟨-, rfl⟩ | ⟨-, hj⟩ := slot_setState_cases hslot hslot'
    · simp [Machine.work_began] at hcopy
    · rw [Machine.work_began] at hcopy
      split at hcopy
      · exact absurd hcopy List.not_mem_nil
      · exact (ih j slot' hj hstate copy hcopy).of_sameShape ⟨rfl, fun _ => rfl⟩
  | @ended _ s _ slot path hslot isOpen ih =>
    intro j slot' hslot' hstate copy hcopy
    obtain ⟨-, rfl⟩ | ⟨-, hj⟩ := slot_setState_cases hslot hslot'
    · exact (ih _ slot hslot (.inl isOpen) copy hcopy).of_sameShape ⟨rfl, fun _ => rfl⟩
    · exact (ih j slot' hj hstate copy hcopy).of_sameShape ⟨rfl, fun _ => rfl⟩
  | submitted path hslot ready run ih =>
    intro j slot' hslot' hstate copy hcopy
    have hshape := (Machine.sameShape_executed (ih _ _ hslot (.inr ready)) run).2
    obtain ⟨-, rfl⟩ | ⟨-, hj⟩ := slot_setState_cases hslot hslot'
    · simp at hstate
    · rw [Machine.work_traced, Machine.work_executed run] at hcopy
      split at hcopy
      · exact absurd hcopy List.not_mem_nil
      · exact (ih j slot' hj hstate copy hcopy).of_sameShape ⟨hshape.bindings, hshape.sizes⟩
  | settled path hslot pending complete ih =>
    intro j slot' hslot' hstate copy hcopy
    obtain ⟨-, rfl⟩ | ⟨-, hj⟩ := slot_setState_cases hslot hslot'
    · simp at hstate
    · exact ih j slot' hj hstate copy hcopy
  | queued copy path hslot isOpen sound ih =>
    intro j slot' hslot' hstate copy' hcopy
    rw [Machine.work_queued] at hcopy
    refine Machine.CanCopy.of_sameShape ?_ ⟨rfl, fun _ => rfl⟩
    split at hcopy
    · rcases List.mem_append.1 hcopy with hold | hnew
      · exact ih j slot' hslot' hstate copy' hold
      · rwa [List.mem_singleton.1 hnew]
    · exact ih j slot' hslot' hstate copy' hcopy

/-- Whatever may be executing was submitted to the pool's queue. -/
theorem queue (path : Path start events s) {b queue : Handle} {fence : Option Handle}
    (h : phase events b = .inFlight queue fence) : queue = s.pool.queue := by
  induction path with
  | start => cases h
  | told _ path ih | turned _ _ path ih | settled path _ _ _ ih => exact ih h
  | submitted path _ _ _ ih =>
    rw [phase_snoc] at h
    obtain h | h := Phase.step_eq_inFlight h
    · exact ih h
    · cases h
      rfl
  | refused _ _ _ _ _ ih | lost _ _ _ _ _ ih | drained _ ih | begun _ _ _ _ ih | ended _ _ _ ih
  | fenced _ ih | waited _ _ _ ih | unfenced _ _ ih | queued _ _ _ _ _ ih =>
    rw [phase_snoc] at h
    obtain h | h := Phase.step_eq_inFlight h
    · exact ih h
    · cases h

end Path

end CopyBench.Session
