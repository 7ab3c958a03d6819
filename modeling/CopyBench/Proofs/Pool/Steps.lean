import CopyBench.Proofs.Buffer.Calls
import CopyBench.Proofs.Machine.Steps
/-!
# What a pool does to its machine

Whatever the state of its slots and whatever fails, a pool takes its machine from step to step and
leaves the buffers alone. A copy between buffers is recorded between two such runs of steps, and one
that is waited for with success was executed.
-/

namespace CopyBench

open CopyBench.Action

namespace Session

open Machine (Steps)

variable {α : Type} {J : Machine → Prop} {m₀ : Machine} {s : Session}

/-- What an action maintains of a machine it maintains of the machine of a session. -/
theorem maintains_lift {act : Action Machine α} (h : Maintains J act) :
    Maintains (fun s : Session => J s.machine) (liftM act) := fun s hs => by
  rw [ends_lift]
  exact h s.machine hs

theorem maintains_log (level : Level) (message : String) :
    Maintains (fun s : Session => Steps m₀ s.machine) (log level message) :=
  .log (fun note s steps => steps.tail (.told s.machine note)) level message

theorem maintains_getPool : Maintains (fun s : Session => J s.machine) getPool := fun _ hs => hs

theorem maintains_setState (index : Nat) (state : SlotState) :
    Maintains (fun s : Session => J s.machine) (setState index state) := fun _ hs => hs

theorem maintains_slot (index : Nat) : Maintains (fun s : Session => J s.machine) (slot index) :=
    fun s hs => by
  rw [ends_slot]
  cases s.pool.slots[index]? <;> exact hs

theorem maintains_drain : Maintains (fun s : Session => Steps m₀ s.machine) drain := fun s steps => by
  rw [ends_drain]
  cases s.machine.fault .queueWaitIdle with
  | some code => exact steps.tail (.refused ..)
  | none => exact steps.tail (.drained ..)

/-! ## Opening a slot -/

/-- A slot was just opened: nothing is recorded in it. -/
structure Opened (index : Nat) (b : Handle) (s : Session) : Prop where
  slot : s.pool.slots[index]? = some ⟨b, .recording⟩
  empty : s.machine.work b = []

theorem ends_begin_steps (index : Nat) (flags : UInt32) (steps : Steps m₀ s.machine) :
    (begin index flags).Ends s fun r s' => Steps m₀ s'.machine ∧ ∀ b, r = .ok b → Opened index b s' := by
  rw [ends_begin]
  cases hslot : s.pool.slots[index]? with
  | none => exact ⟨steps, nofun⟩
  | some slot =>
    -- What is left when the slot may be begun, with or without a wait before.
    have rest {s₁ : Session} (steps : Steps m₀ s₁.machine) (hpool : s₁.pool = s.pool) :
        (startRecording index slot.commandBuffer flags).Ends s₁ fun r s' =>
          Steps m₀ s'.machine ∧ ∀ b, r = .ok b → Opened index b s' := by
      rw [ends_startRecording]
      cases s₁.machine.fault .beginCommandBuffer with
      | some code => exact ⟨steps.tail (.refused ..), nofun⟩
      | none =>
        refine ⟨steps.tail (.began ..), ?_⟩
        rintro b ⟨⟩
        refine ⟨?_, (Machine.work_began ..).trans (if_pos rfl)⟩
        rw [← hpool] at hslot
        exact slot_setState .recording hslot
    rcases slot with ⟨b, _ | _ | _ | _⟩ <;> dsimp only at rest ⊢
    case recording => exact ⟨steps, nofun⟩
    case idle | executable => exact rest steps rfl
    case pending =>
      rw [ends_drain]
      have told (note : Note) : Steps m₀ (Console.tell note s).machine := steps.tail (.told ..)
      cases (Console.tell _ s : Session).machine.fault .queueWaitIdle with
      | some code => exact ⟨(told _).tail (.refused ..), nofun⟩
      | none => exact rest ((told _).tail (.drained ..)) rfl

/-! ## Submitting a slot -/

theorem maintains_finishRecording (index : Nat) :
    Maintains (fun s : Session => Steps m₀ s.machine) (finishRecording index) :=
  (maintains_slot index).bind fun slot => .ite
    (((maintains_lift (Machine.maintains_endCommandBuffer slot.commandBuffer)).orOperational _).bind fun _ =>
      maintains_setState index _)
    (.fail _)

theorem maintains_submit (index : Nat) (b : Handle) :
    Maintains (fun s : Session => Steps m₀ s.machine) (submit index b) := by
  refine maintains_getPool.bind fun pool => Maintains.bind (.orOperational _ fun s steps => ?_) fun _ =>
    maintains_setState index _
  rw [ends_lift]
  exact (Machine.ends_queueSubmit_step pool.device pool.queue b none nofun).mono fun r m h => steps.tail h.1

theorem ends_awaitFence_steps (index : Nat) {fence : Handle} (live : fence ∈ s.machine.liveFences)
    (steps : Steps m₀ s.machine) :
    (awaitFence index fence).Ends s fun _ s' => Steps m₀ s'.machine ∧
      s.machine.SameMemory s'.machine := by
  rw [awaitFence, ends_bind, ends_lift, Machine.ends_waitForFence _ _ _ live]
  have refused (code : ResultCode) := (steps.tail (.refused s.machine .waitForFence
    (.waitForFence fence fenceTimeout) code)).tail (.unfenced _ fence)
  split
  · exact ⟨refused _, rfl, rfl⟩
  split
  · exact ⟨refused _, rfl, rfl⟩
  · exact ⟨(steps.tail (.waited s.machine fence fenceTimeout)).tail (.unfenced _ fence), rfl, rfl⟩

theorem ends_submitFenced_steps (index : Nat) (b : Handle) {fence : Handle}
    (live : fence ∈ s.machine.liveFences) (steps : Steps m₀ s.machine) :
    (submitFenced index b fence).Ends s fun r s' => Steps m₀ s'.machine ∧
      (r = .ok () → s.machine.Replayed b s'.machine) := by
  rw [submitFenced, ends_bind, ends_getPool]
  dsimp only
  rw [ends_bind, ends_recover, ends_lift, ends_orOperational]
  refine (Machine.ends_queueSubmit_step s.pool.device s.pool.queue b (some fence)
    fun _ h => Option.some.inj h ▸ live).mono fun r m h => ?_
  obtain ⟨step, fences, accepted⟩ := h
  have steps := steps.tail step
  rcases r with (f | p) | code | _
  · exact ⟨steps.tail (.unfenced m fence), nofun⟩
  · exact ⟨steps, nofun⟩
  · exact ⟨steps.tail (.unfenced m fence), nofun⟩
  · obtain ⟨m₁, run, rfl⟩ := accepted rfl
    dsimp only
    rw [ends_bind, ends_setState]
    refine (ends_awaitFence_steps index (fences ▸ live) steps).mono fun r s' h => ?_
    exact ⟨h.1, fun _ => Machine.replayed_of_executed run ⟨h.2.bindings, h.2.memories⟩⟩

/-- A slot that was submitted and waited for with success was executed. -/
theorem ends_submitAndWait_steps (index : Nat) (b : Handle) (steps : Steps m₀ s.machine) :
    (submitAndWait index b).Ends s fun r s' => Steps m₀ s'.machine ∧
      (r = .ok () → s.machine.Replayed b s'.machine) := by
  rw [ends_submitAndWait]
  cases s.machine.fault .createFence with
  | some code => exact ⟨steps.tail (.refused ..), nofun⟩
  | none =>
    refine (ends_submitFenced_steps index b (s := { s with machine := s.machine.fenced })
      List.mem_cons_self (steps.tail (.fenced _))).mono fun r s' h => ⟨h.1, fun hr => ?_⟩
    exact (h.2 hr).of_same ⟨rfl, rfl⟩ rfl

theorem maintains_submission (index : Nat) (b : Handle) (wait : Bool) :
    Maintains (fun s : Session => Steps m₀ s.machine)
      (if wait then submitAndWait index b else submit index b) :=
  .ite (fun _ steps => (ends_submitAndWait_steps index b steps).mono fun _ _ h => h.1)
    (maintains_submit index b)

theorem maintains_flush (index : Nat) (wait : Bool) :
    Maintains (fun s : Session => Steps m₀ s.machine) (flush index wait) := by
  refine (maintains_slot index).bind fun slot => ?_
  rcases slot with ⟨b, _ | _ | _ | _⟩ <;> dsimp only
  case idle => exact maintains_log _ _
  case recording => exact (maintains_finishRecording index).bind fun _ => maintains_submission index b wait
  case executable => exact maintains_submission index b wait
  case pending => exact .ite (maintains_drain.bind fun _ => maintains_setState index _) (.pure _)

theorem maintains_flushFrom (wait : Bool) (n : Nat) : ∀ index,
    Maintains (fun s : Session => Steps m₀ s.machine) (flushFrom wait index n) := by
  induction n with
  | zero => exact fun _ => .pure _
  | succ n ih =>
    refine fun index => (maintains_flush index wait).recover.bind fun r => ?_
    cases r with
    | ok _ => exact ih (index + 1)
    | error e => exact .fail _

theorem maintains_flushAll (wait : Bool) : Maintains (fun s : Session => Steps m₀ s.machine) (flushAll wait) :=
  maintains_getPool.bind fun pool => maintains_flushFrom wait pool.slots.length 0

/-- A waiting flush of an open slot that succeeds has executed what was recorded there. -/
theorem ends_flush_replayed {index : Nat} {b : Handle}
    (hslot : s.pool.slots[index]? = some ⟨b, .recording⟩) :
    (flush index true).Ends s fun r s' => r = .ok () → s.machine.Replayed b s'.machine := by
  rw [ends_flush_open s hslot rfl]
  cases s.machine.fault .endCommandBuffer with
  | some code => exact nofun
  | none =>
    have submitted := ends_submitAndWait_steps index b
      (s := ⟨s.machine.ended b, s.pool.setState index .executable⟩) .refl
    dsimp only
    rw [if_pos rfl]
    exact submitted.mono fun r s' h => fun hr => (h.2 hr).of_same ⟨rfl, rfl⟩ rfl

/-! ## Operations -/

theorem maintains_close (index : Nat) (ending : Ending) :
    Maintains (fun s : Session => Steps m₀ s.machine) (close index ending) := by
  cases ending with
  | keep => exact maintains_finishRecording index
  | submit | finish => exact maintains_flush index _

theorem ends_acquire_steps (steps : Steps m₀ s.machine) :
    acquire.Ends s fun r s' => Steps m₀ s'.machine ∧
      ∀ index b, r = .ok (index, b) → index = s.pool.cursor ∧ Opened index b s' := by
  rw [ends_acquire]
  refine (ends_begin_steps s.pool.cursor simultaneousUse (s := { s with pool := turned s.pool })
    steps).mono fun r s₁ h => ?_
  obtain ⟨steps, opened⟩ := h
  split
  · refine ⟨steps, ?_⟩
    rintro index b ⟨⟩
    exact ⟨rfl, opened _ rfl⟩
  · rw [ends_reopen]
    refine (maintains_flush s.pool.cursor true _ (steps.tail (.told _ _))).mono fun r s₂ steps => ?_
    cases r with
    | error f => exact ⟨steps, nofun⟩
    | ok _ =>
      refine (ends_begin_steps s.pool.cursor simultaneousUse
        (s := { s₂ with pool := { s₂.pool with autoFlushes := s₂.pool.autoFlushes + 1 } })
        steps).mono fun r s₃ h => ?_
      obtain ⟨steps, opened⟩ := h
      cases r with
      | error f => exact ⟨steps, nofun⟩
      | ok b =>
        refine ⟨steps, ?_⟩
        rintro index b ⟨⟩
        exact ⟨rfl, opened _ rfl⟩
  · exact ⟨steps, nofun⟩

theorem maintains_acquire : Maintains (fun s : Session => Steps m₀ s.machine) acquire :=
  fun _ steps => (ends_acquire_steps steps).mono fun _ _ h => h.1

/-- Every operation of a pool takes its machine from step to step. -/
theorem maintains_perform (operation : PoolOperation) :
    Maintains (fun s : Session => Steps m₀ s.machine) (perform operation) := by
  cases operation with
  | begin index flags =>
    refine Maintains.bind (fun s steps => ?_) fun _ => .pure _
    exact (ends_begin_steps index flags steps).mono fun _ _ h => h.1
  | finishRecording index => exact (maintains_finishRecording index).bind fun _ => .pure _
  | flush index wait => exact (maintains_flush index wait).bind fun _ => .pure _
  | flushAll wait => exact (maintains_flushAll wait).bind fun _ => .pure _
  | acquire => exact maintains_acquire.bind fun _ => .pure _
  | close index ending => exact (maintains_close index ending).bind fun _ => .pure _
  | commandBuffer index => exact (maintains_slot index).bind fun _ => .pure _
  | state index => exact (maintains_slot index).bind fun _ => .pure _

end Session

/-! ## A whole copy -/

namespace Machine

/-- What a copy between buffers does to the machine: steps of the pool, among which the copy is
recorded at most once. -/
def CopySteps (m : Machine) (copy : RecordedCopy) (m' : Machine) : Prop :=
  Steps m m' ∨ ∃ m₁ b, Steps m m₁ ∧ m₁.work b = [] ∧ Steps (m₁.queued b copy) m'

/-- A copy was executed after some steps of the pool, and nothing has moved since. -/
def CopiedAfter (m : Machine) (copy : RecordedCopy) (m' : Machine) : Prop :=
  ∃ m₁ m₂, Steps m m₁ ∧ m₁.copied copy = .ok m₂ ∧ SameMemory m₂ m'

end Machine

/-- A copy is recorded at most once, and one that is waited for with success was executed. -/
theorem StagedBuffer.ends_copyFrom_steps (buffer source : BoundBuffer) (region : Region) (wait : Bool)
    (s : Session) :
    (copyFrom buffer source region wait).Ends s fun r s' =>
      s.machine.CopySteps ⟨source.handle, buffer.handle, region⟩ s'.machine ∧
        (r = .ok () → wait = true →
          s.machine.CopiedAfter ⟨source.handle, buffer.handle, region⟩ s'.machine) := by
  rw [ends_copyFrom]
  refine (Session.ends_acquire_steps .refl).mono fun r s₁ h => ?_
  obtain ⟨steps, opened⟩ := h
  rcases r with f | ⟨index, b⟩
  · exact ⟨.inl steps, nofun⟩
  obtain ⟨-, hslot, hempty⟩ := opened index b rfl
  let copy : RecordedCopy := ⟨source.handle, buffer.handle, region⟩
  let s₂ : Session := { s₁ with machine := s₁.machine.queued b copy }
  have flushed := Session.maintains_flush index wait s₂ .refl
  have replayed : (Session.flush index wait).Ends s₂ fun r s' => r = .ok () → wait = true →
      s₂.machine.Replayed b s'.machine := by
    cases wait with
    | false => exact .of_forall fun _ _ _ h => nomatch h
    | true => exact (Session.ends_flush_replayed (s := s₂) hslot).mono fun _ _ h hr _ => h hr
  refine (flushed.and replayed).mono fun r s' h => ⟨.inr ⟨_, b, steps, hempty, h.1⟩, fun hr hw => ?_⟩
  obtain ⟨m₂, hreplay, same⟩ := h.2 hr hw
  -- The slot was empty, so the copy is all that the submission executed.
  have hwork : s₂.machine.work b = [copy] := by
    rw [Machine.work_queued, if_pos rfl, hempty, List.nil_append]
  have hqueued : s₁.machine.SameMemory s₂.machine := ⟨rfl, rfl⟩
  obtain ⟨cause, -, hcopied⟩ | ⟨m₃, m₃', hcopied, hcopied', hsame⟩ := hqueued.copied copy
  · rw [hwork, Machine.replay, hcopied] at hreplay
    cases hreplay
  · rw [hwork, Machine.replay, hcopied'] at hreplay
    cases hreplay
    exact ⟨_, m₃, steps, hcopied, hsame.trans same⟩

end CopyBench
