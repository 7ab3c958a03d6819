import CopyBench.Proofs.Buffer.Fates
/-!
# What a copy that fails leaves

A copy between buffers that fails may have recorded its copy before. Then the copy is left in the slot that the
ring pointed at. Which call failed says in which state: the slot is still open if its recording could not be
ended, and it is ended if there was no fence or the submission was refused.
-/

namespace CopyBench

open CopyBench.Action

open Machine (BufferSteps Steps)

/-- The event of a copy that is recorded. -/
def RecordedCopy.event (copy : RecordedCopy) (b : Handle) : Event :=
  ⟨.copyBuffer b copy.source copy.destination copy.region, .done⟩

/-- The event of some copy that is recorded. -/
def Event.Records (event : Event) : Prop := ∃ b copy, event = RecordedCopy.event copy b

theorem not_records_of_inert {call : Call} {reply : Reply} (inert : call.Inert) : ¬Event.Records ⟨call, reply⟩ := by
  rintro ⟨b, copy, h⟩
  cases h
  exact inert

theorem not_records_failed (call : Call) (code : ResultCode) : ¬Event.Records ⟨call, .failed code⟩ := by
  rintro ⟨b, copy, h⟩
  cases h

theorem Call.Submits.not_records {event : Event} {b : Handle} (submits : event.call.Submits b) : ¬event.Records := by
  rintro ⟨b', copy, rfl⟩
  exact submits

namespace Machine

variable {m m' : Machine}

/-- A step of the pool records no copy. -/
theorem Step.unrecorded (step : Step m m') : m.Adds (¬·.Records) m' := by
  cases step with
  | told note => exact .refl _
  | refused point call code => exact adds_event rfl (not_records_failed call code)
  | lost point call code => exact adds_event rfl (not_records_failed call code)
  | named | ended | drained | fenced | waited | unfenced => exact adds_event rfl (not_records_of_inert trivial)
  | began b flags => exact adds_event (trace_began ..) (by rintro ⟨b, copy, ⟨⟩⟩)
  | @handed m₁ b fence cause queue run =>
    have trace : (m₁.traced (.queueSubmit queue b fence) (handedReply cause)).trace =
        m.trace.push ⟨.queueSubmit queue b fence, handedReply cause⟩ := by
      rw [trace_traced, trace_executed run]
    refine adds_event trace ?_
    rintro ⟨b, copy, h⟩
    cases (Event.mk.inj h).1

theorem Steps.unrecorded (steps : Steps m m') : m.Adds (¬·.Records) m' := by
  induction steps with
  | refl => exact .refl _
  | tail _ last ih => exact ih.trans last.unrecorded

theorem BufferSteps.unrecorded (steps : BufferSteps m m') : m.Adds (¬·.Records) m' :=
  steps.adds.mono fun _ on => not_records_of_inert on.inert

end Machine

namespace Session

variable {s s' s₁ s₂ : Session} {index : Nat} {b : Handle} {before after : List Event}

/-- How a copy is left in slot `index` whose submission was not accepted, by the calls made after it was
recorded. -/
inductive Rests (index : Nat) (b : Handle) (after : List Event) (s : Session) : Prop where
  /-- The recording could not be ended. -/
  | unended {code : ResultCode} (refused : ⟨.endCommandBuffer b, .failed code⟩ ∈ after)
      (spared : ∀ event ∈ after, event.Spares b) (holds : s.Holds index b .recording)
  /-- There was no fence, or the submission was refused. -/
  | unsubmitted {event : Event} (mem : event ∈ after) (declines : event.Declines b)
      (spared : ∀ event ∈ after, event.Spares b) (holds : s.Holds index b .executable)
  /-- The submission broke down on the machine, which took the copy. -/
  | broke {queue : Handle} {fence : Option Handle} (broke : ⟨.queueSubmit queue b fence, .crashed⟩ ∈ after)
      (lot : Lot b .executed after) (holds : s.Holds index b .executable)

/-- What an attempt to copy comes to: it has recorded nothing, or one copy into a command buffer that held none.
That is left in the slot at which the ring pointed, unless its submission was accepted. -/
inductive Attempt (s : Session) (s' : Session) : Prop where
  | unrecorded (adds : s.machine.Adds (¬·.Records) s'.machine)
  | recorded {b : Handle} {copy : RecordedCopy} {before after : List Event}
      (trace : s'.machine.trace.toList = s.machine.trace.toList ++ before ++ copy.event b :: after)
      (first : ∀ event ∈ before, ¬event.Records) (last : ∀ event ∈ after, ¬event.Records)
      (empty : holding (s.machine.trace.toList ++ before) b = [])
      (rests : (∀ queue fence, ⟨.queueSubmit queue b fence, .done⟩ ∉ after) → s'.Rests s.pool.cursor b after)

/-- Calls that record nothing come before. -/
theorem Attempt.preceded (h : s₁.Attempt s') (adds : s.machine.Adds (¬·.Records) s₁.machine)
    (cursor : s₁.pool.cursor = s.pool.cursor) : s.Attempt s' := by
  cases h with
  | unrecorded adds' => exact .unrecorded (adds.trans adds')
  | @recorded b copy before after trace first last empty rests =>
    obtain ⟨more, trace', unrecorded⟩ := adds
    rw [cursor] at rests
    rw [trace', List.append_assoc] at empty
    have trace : s'.machine.trace.toList = s.machine.trace.toList ++ (more ++ before) ++ copy.event b :: after := by
      rw [trace, trace', List.append_assoc, List.append_assoc, List.append_assoc, List.append_assoc]
    exact .recorded trace (List.forall_mem_append.2 ⟨unrecorded, first⟩) last empty rests

/-- The trace says which copy it was. -/
theorem Attempt.rests (h : s.Attempt s') {copy : RecordedCopy} {before after : List Event}
    (trace : s'.machine.trace.toList = s.machine.trace.toList ++ before ++ copy.event b :: after)
    (unaccepted : ∀ queue fence, ⟨.queueSubmit queue b fence, .done⟩ ∉ after) :
    holding (s.machine.trace.toList ++ before) b = [] ∧ s'.Rests s.pool.cursor b after := by
  have records : (copy.event b).Records := ⟨b, copy, rfl⟩
  rw [List.append_assoc] at trace
  cases h with
  | unrecorded adds =>
    obtain ⟨more, trace', unrecorded⟩ := adds
    obtain rfl := List.append_cancel_left (trace'.symm.trans trace)
    exact absurd records (unrecorded _ (List.mem_append_right _ List.mem_cons_self))
  | recorded trace' first last empty rests =>
    rw [List.append_assoc] at trace'
    obtain ⟨rfl, same, rfl⟩ := (List.append_cons_inj_of_notMem (fun mem => first _ mem records) fun mem =>
      last _ mem records).1 (List.append_cancel_left (trace'.symm.trans trace))
    obtain ⟨rfl, -⟩ := Call.copyBuffer.inj (Event.mk.inj same).1
    exact ⟨empty, rests unaccepted⟩

/-- A slot is flushed after a copy was recorded into it. -/
theorem ends_flush_rests (distinct : s.Distinct) (hslot : s.pool.slots[index]? = some ⟨b, .recording⟩) (wait : Bool) :
    (flush index wait).Ends s fun _ s' => ∃ after, s'.machine.trace.toList = s.machine.trace.toList ++ after ∧
      (∀ event ∈ after, ¬event.Records) ∧
        ((∀ queue fence, ⟨.queueSubmit queue b fence, .done⟩ ∉ after) → s'.Rests index b after) := by
  have holds : s.Holds index b .recording := ⟨hslot, rfl, distinct⟩
  rw [ends_flush_open s hslot rfl]
  cases s.machine.fault .endCommandBuffer with
  | some code =>
    refine ⟨[⟨.endCommandBuffer b, .failed code⟩], Array.toList_push, ?_, fun _ => ?_⟩
    · exact List.forall_mem_singleton.2 (not_records_failed _ code)
    · have spared : ∀ event ∈ [(⟨.endCommandBuffer b, .failed code⟩ : Event)], event.Spares b :=
        List.forall_mem_singleton.2 (spares_of_inert trivial)
      exact .unended (List.mem_singleton.2 rfl) spared (holds.frame rfl)
  | none =>
    let s₁ : Session := ⟨s.machine.ended b, s.pool.setState index .executable⟩
    have ended : s₁.Holds index b .executable :=
      holds.keeps (s.pool.keeps_setState index .executable) (slot_setState _ hslot) rfl
    have first : ∀ event ∈ [(⟨.endCommandBuffer b, .done⟩ : Event)], event.Spares b :=
      List.forall_mem_singleton.2 (spares_of_inert trivial)
    refine (ends_submission_sent index b wait s₁).mono fun r s' h => ?_
    obtain ⟨more, trace, calls, lot, declined⟩ := h
    refine ⟨⟨.endCommandBuffer b, .done⟩ :: more, ?_, ?_, fun unaccepted => ?_⟩
    · rw [trace, Machine.trace_ended, Array.toList_push, List.append_assoc]
      rfl
    · refine List.forall_mem_cons.2 ⟨not_records_of_inert trivial, fun event mem => ?_⟩
      exact (calls event mem).not_records
    · have unaccepted : ∀ queue fence, ⟨.queueSubmit queue b fence, .done⟩ ∉ more :=
        fun queue fence mem => unaccepted queue fence (List.mem_cons_of_mem _ mem)
      have holds' : s'.Holds index b .executable := ended.frame (congrArg _ (declined unaccepted).1)
      rcases lot with executed | ⟨held, event, mem, declines⟩
      · have lot := executed.after_spared first
        obtain ⟨⟨call, reply⟩, mem, queue, fence, rfl, rfl | rfl⟩ := executed.exists_handsOver
        · exact absurd mem (unaccepted queue fence)
        · exact .broke (List.mem_cons_of_mem _ mem) lot holds'
      · cases held with
        | held spared =>
          exact .unsubmitted (List.mem_cons_of_mem _ mem) declines (List.forall_mem_append.2 ⟨first, spared⟩) holds'

/-- A copy is recorded at most once, and one that fails is left in the slot that the ring pointed at. -/
theorem ends_copyFrom_attempt (distinct : s.Distinct) (booked : s.machine.Booked) (buffer source : BoundBuffer)
    (region : Region) (wait : Bool) :
    (StagedBuffer.copyFrom buffer source region wait).Ends s fun _ s' => s.Attempt s' := by
  rw [StagedBuffer.ends_copyFrom]
  refine ((ends_acquire_steps .refl).and (rings_acquire s (.refl _))).mono fun r s₁ h => ?_
  obtain ⟨⟨steps, opened⟩, keeps⟩ := h
  rcases r with f | ⟨j, b⟩
  · exact .unrecorded steps.unrecorded
  · obtain ⟨rfl, opened⟩ := opened j b rfl
    obtain ⟨before, acquired, first⟩ := steps.unrecorded
    have empty := ((Machine.Steps.device steps).booked booked).work b
    rw [opened.empty, acquired] at empty
    let copy : RecordedCopy := ⟨source.handle, buffer.handle, region⟩
    let s₂ : Session := { s₁ with machine := s₁.machine.queued b copy }
    refine (ends_flush_rests (s := s₂) (distinct.keeps keeps) opened.slot wait).mono fun _ s' h => ?_
    obtain ⟨after, trace, last, rests⟩ := h
    have trace : s'.machine.trace.toList = s.machine.trace.toList ++ before ++ copy.event b :: after := by
      rw [trace, Machine.trace_queued, Array.toList_push, acquired, List.append_assoc _ [_]]
      rfl
    exact .recorded trace first last empty.symm rests

theorem ends_fill_attempt (distinct : s.Distinct) (booked : s.machine.Booked) (buffer : StagedBuffer)
    (contents : Contents) (discard : Bool) :
    (buffer.fill contents discard).Ends s fun r s' => ∃ b' result, r = .ok (b', result) ∧
      ∀ f, result = .error f → s.Attempt s' := by
  refine StagedBuffer.ends_fill_prepared buffer contents discard s
    (fun f m steps _ _ => ⟨_, _, rfl, fun _ _ => .unrecorded steps.unrecorded⟩) fun b₁ staging m steps prepared => ?_
  have booked := steps.device.booked booked
  refine (ends_copyFrom_attempt (s := { s with machine := m }) distinct booked buffer.main staging _ true).mono
    fun r s₂ attempt => ?_
  cases r with
  | error f => exact ⟨_, _, rfl, fun _ _ => attempt.preceded steps.unrecorded rfl⟩
  | ok _ =>
    dsimp only
    split <;> exact ⟨_, _, rfl, nofun⟩

end Session

namespace Workspace

/-- A request that copies and fails has attempted one copy. -/
theorem ends_perform_attempt {w : Workspace} (distinct : w.session.Distinct) (booked : w.session.machine.Booked)
    {request : BufferRequest} (copies : request.Copies) :
    (perform request).Ends w fun r w' => ∀ f, r = .error f → w.session.Attempt w'.session := by
  cases request with
  | fill name contents discard =>
    refine ends_held_cases (fun _ => nofun) fun buffer _ => ?_
    dsimp only
    rw [ends_bind, ends_fill]
    refine (Session.ends_fill_attempt distinct booked buffer contents discard).mono fun r s h => ?_
    obtain ⟨b', result, rfl, attempt⟩ := h
    cases result with
    | ok _ => exact nofun
    | error f => exact fun _ _ => attempt f rfl
  | copy name source region wait =>
    refine ends_held_cases (fun _ => ?_) fun buffer _ => ends_held_cases (fun _ => nofun) fun source _ => ?_
    · exact ends_held_cases (fun _ => nofun) fun _ _ => nofun
    · dsimp only
      rw [ends_bind, ends_onSession]
      refine (Session.ends_copyFrom_attempt distinct booked buffer.main source.main region wait).mono
        fun r s attempt => ?_
      cases r with
      | ok _ => exact nofun
      | error f => exact fun _ _ => attempt
  | create | read | write | inspect | release | attachName | onPool => exact copies.elim

end Workspace

end CopyBench
