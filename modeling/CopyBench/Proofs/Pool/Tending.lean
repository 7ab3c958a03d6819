import CopyBench.Proofs.Machine.Adding
import CopyBench.Proofs.Machine.Steps
import CopyBench.Proofs.Pool.Calls
import CopyBench.Proofs.Trace.Taken
/-!
# Calls for one slot

A flush and a begin make calls for the command buffer of their slot and for no other, so what all other command
buffers hold is left alone. A submission hands the copies of its command buffer over or fails, and one that is
not accepted leaves the pool as it was.
-/

namespace CopyBench

open CopyBench.Action

/-- The calls of a submission of a command buffer. -/
def Call.Submits (b : Handle) : Call → Prop
  | .queueSubmit _ b' _ => b' = b
  | .createFence | .waitForFence .. | .destroyFence _ => True
  | _ => False

/-- The calls that a pool makes for one of its command buffers. -/
def Call.Tends (b : Handle) : Call → Prop
  | .beginCommandBuffer b' _ | .endCommandBuffer b' | .queueSubmit _ b' _ => b' = b
  | .queueWaitIdle _ | .createFence | .waitForFence .. | .destroyFence _ => True
  | _ => False

section Calls

variable {b b' : Handle} {event : Event} {call : Call} {reply : Reply}

theorem Call.Submits.tends (submits : call.Submits b) : call.Tends b := by
  cases call <;> first | exact submits | exact submits.elim

theorem spares_of_inert (inert : call.Inert) : Event.Spares ⟨call, reply⟩ b := by
  cases call <;> first | exact fun _ => rfl | exact inert.elim

/-- A call for one command buffer spares all others. -/
theorem Call.Tends.spares (tends : event.call.Tends b') (other : b' ≠ b) : event.Spares b := by
  rcases event with ⟨call, reply⟩
  cases call with
  | beginCommandBuffer | queueSubmit =>
    cases tends
    intro held
    cases reply <;> first | rfl | exact if_neg other
  | copyBuffer => exact tends.elim
  | _ => exact spares_of_inert trivial

/-- A call without which a command buffer cannot be submitted was refused. -/
def Event.Declines (event : Event) (b : Handle) : Prop :=
  ∃ code, event = ⟨.createFence, .failed code⟩ ∨ ∃ queue fence, event = ⟨.queueSubmit queue b fence, .failed code⟩

/-- A submission that reaches the machine decides, and one that is refused spares the command buffer. -/
theorem lot_submission (queue b : Handle) (fence : Option Handle) {reply : Reply} {after : List Event}
    (answers : reply = .done ∨ reply = .crashed ∨ ∃ code, reply = .failed code)
    (spared : ∀ event ∈ after, event.Spares b) :
    let events := ⟨.queueSubmit queue b fence, reply⟩ :: after
    Lot b .executed events ∨ Lot b .held events ∧ ∃ event ∈ events, event.Declines b := by
  have executed (reached : reply = .done ∨ reply = .crashed) :
      Lot b .executed ([] ++ ⟨.queueSubmit queue b fence, reply⟩ :: after) :=
    .executed (List.forall_mem_nil _) ⟨queue, fence, rfl, reached⟩ after
  rcases answers with rfl | rfl | ⟨code, rfl⟩
  · exact .inl (executed (.inl rfl))
  · exact .inl (executed (.inr rfl))
  · refine .inr ⟨.held (List.forall_mem_cons.2 ⟨fun _ => rfl, spared⟩), _, List.mem_cons_self, code, .inr ?_⟩
    exact ⟨queue, fence, rfl⟩

end Calls

namespace Session

variable {s s₁ s' : Session} {index : Nat} {b : Handle} {slot : Slot} {more : List Event}
  {r : Except Failure Unit}

/-! ## Submissions -/

/-- What a submission of `b` comes to: its copies are handed over, or they are held since a call was refused. A
submission that is not accepted fails and leaves the pool as it was. -/
structure Sent (b : Handle) (s : Session) (more : List Event) (r : Except Failure Unit) (s' : Session) : Prop where
  trace : s'.machine.trace.toList = s.machine.trace.toList ++ more
  calls : ∀ event ∈ more, event.call.Submits b
  lot : Lot b .executed more ∨ Lot b .held more ∧ ∃ event ∈ more, event.Declines b
  declined : (∀ queue fence, ⟨.queueSubmit queue b fence, .done⟩ ∉ more) → s'.pool = s.pool ∧ ∃ f, r = .error f

/-- A call on a fence comes before. -/
theorem Sent.after {call : Call} {reply : Reply} (sent : Sent b s₁ more r s')
    (trace : s₁.machine.trace = s.machine.trace.push ⟨call, reply⟩) (pool : s₁.pool = s.pool)
    (submits : call.Submits b) (inert : call.Inert) : Sent b s (⟨call, reply⟩ :: more) r s' := by
  obtain ⟨trace', calls, lot, declined⟩ := sent
  have spared : ∀ event ∈ [(⟨call, reply⟩ : Event)], event.Spares b :=
    List.forall_mem_singleton.2 (spares_of_inert inert)
  refine ⟨by rw [trace', trace, Array.toList_push, List.append_assoc]; rfl, List.forall_mem_cons.2 ⟨submits, calls⟩,
    lot.imp (·.after_spared spared) (.imp (·.after_spared spared) ?_), fun unaccepted => ?_⟩
  · exact fun ⟨event, mem, declines⟩ => ⟨event, List.mem_cons_of_mem _ mem, declines⟩
  · rw [← pool]
    exact declined fun queue fence mem => unaccepted queue fence (List.mem_cons_of_mem _ mem)

theorem ends_awaitFence_calls (index : Nat) (b : Handle) {fence : Handle} (live : fence ∈ s.machine.liveFences) :
    (awaitFence index fence).Ends s fun _ s' => ∃ more,
      s'.machine.trace.toList = s.machine.trace.toList ++ more ∧
        ∀ event ∈ more, event.call.Submits b ∧ event.Spares b := by
  -- The wait is answered in some way, and the fence is destroyed after it.
  have calls {m : Machine} {reply : Reply}
      (trace : m.trace = s.machine.trace.push ⟨.waitForFence fence fenceTimeout, reply⟩) :
      ∃ more, (m.unfenced fence).trace.toList = s.machine.trace.toList ++ more ∧
        ∀ event ∈ more, event.call.Submits b ∧ event.Spares b := by
    refine ⟨[⟨.waitForFence fence fenceTimeout, reply⟩, ⟨.destroyFence fence, .done⟩], ?_, ?_⟩
    · simp [trace]
    · exact List.forall_mem_cons.2 ⟨⟨trivial, spares_of_inert trivial⟩,
        List.forall_mem_singleton.2 ⟨trivial, spares_of_inert trivial⟩⟩
  rw [awaitFence, ends_bind, ends_lift, Machine.ends_waitForFence _ _ _ live]
  split
  · exact calls rfl
  split
  · exact calls rfl
  · exact calls rfl

theorem ends_submitFenced_sent (index : Nat) (b : Handle) {fence : Handle} (live : fence ∈ s.machine.liveFences) :
    (submitFenced index b fence).Ends s fun r s' => ∃ more, Sent b s more r s' := by
  rw [submitFenced, ends_bind, ends_getPool]
  dsimp only
  rw [ends_bind, ends_recover, ends_lift, ends_orOperational]
  refine (Machine.ends_queueSubmit_reply s.pool.device s.pool.queue b
    fun _ h => Option.some.inj h ▸ live).mono fun r m h => ?_
  obtain ⟨fences, reply, trace, accepted, answers⟩ := h
  let event : Event := ⟨.queueSubmit s.pool.queue b (some fence), reply⟩
  have own : event.call.Submits b := rfl
  -- What follows the submission spares the command buffer, and changes the pool only if it was accepted.
  have sent {after : List Event} {r : Except Failure Unit} {s' : Session}
      (trace' : s'.machine.trace.toList = m.trace.toList ++ after)
      (calls : ∀ event ∈ after, event.call.Submits b ∧ event.Spares b)
      (declined : reply ≠ .done → s'.pool = s.pool ∧ ∃ f, r = .error f) : ∃ more, Sent b s more r s' := by
    refine ⟨event :: after, ?_, List.forall_mem_cons.2 ⟨own, fun e mem => (calls e mem).1⟩, ?_, fun unaccepted => ?_⟩
    · rw [trace', trace, List.append_assoc]
      rfl
    · exact lot_submission _ b _ answers fun e mem => (calls e mem).2
    · refine declined fun done => unaccepted s.pool.queue (some fence) ?_
      rw [← done]
      exact List.mem_cons_self
  have gone : (m.unfenced fence).trace.toList = m.trace.toList ++ [⟨.destroyFence fence, .done⟩] := by simp
  have destroyed : ∀ event ∈ [(⟨.destroyFence fence, .done⟩ : Event)], event.call.Submits b ∧ event.Spares b :=
    List.forall_mem_singleton.2 ⟨trivial, spares_of_inert trivial⟩
  rcases r with (e | p) | code | _
  · exact sent gone destroyed fun _ => ⟨rfl, _, rfl⟩
  · exact sent (List.append_nil _).symm nofun fun _ => ⟨rfl, _, rfl⟩
  · exact sent gone destroyed fun _ => ⟨rfl, _, rfl⟩
  · dsimp only
    rw [ends_bind, ends_setState]
    refine (ends_awaitFence_calls (s := ⟨m, s.pool.setState index .pending⟩) index b (fences ▸ live)).mono
      fun r s' h => ?_
    obtain ⟨after, trace', calls⟩ := h
    exact sent trace' calls fun declined => absurd (accepted.1 rfl) declined

theorem ends_submission_sent (index : Nat) (b : Handle) (wait : Bool) (s : Session) :
    Ends (if wait then submitAndWait index b else submit index b) s fun r s' => ∃ more, Sent b s more r s' := by
  cases wait with
  | true =>
    rw [if_pos rfl, ends_submitAndWait]
    cases s.machine.fault .createFence with
    | some code =>
      refine ⟨[⟨.createFence, .failed code⟩], by simp, List.forall_mem_singleton.2 trivial, ?_, fun _ => ⟨rfl, _, rfl⟩⟩
      refine .inr ⟨.held (List.forall_mem_singleton.2 (spares_of_inert trivial)), _, List.mem_singleton.2 rfl, ?_⟩
      exact ⟨code, .inl rfl⟩
    | none =>
      refine (ends_submitFenced_sent index b (s := { s with machine := s.machine.fenced }) List.mem_cons_self).mono
        fun r s' h => ?_
      obtain ⟨more, sent⟩ := h
      exact ⟨_, sent.after (s := s) rfl rfl trivial trivial⟩
  | false =>
    rw [if_neg Bool.false_ne_true, submit, ends_bind, ends_getPool]
    dsimp only
    rw [ends_bind, ends_orOperational, ends_lift]
    have unfenced : ∀ f, (none : Option Handle) = some f → f ∈ s.machine.liveFences := nofun
    refine (Machine.ends_queueSubmit_reply s.pool.device s.pool.queue b unfenced).mono fun r m h => ?_
    obtain ⟨-, reply, trace, accepted, answers⟩ := h
    have sent {r : Except Failure Unit} {pool : CommandPool}
        (declined : reply ≠ .done → pool = s.pool ∧ ∃ f, r = .error f) : ∃ more, Sent b s more r ⟨m, pool⟩ := by
      refine ⟨_, trace, List.forall_mem_singleton.2 rfl, lot_submission _ b _ answers (List.forall_mem_nil _),
        fun unaccepted => declined fun done => ?_⟩
      exact unaccepted s.pool.queue none (by simp [done])
    rcases r with f | code | _
    · exact sent fun _ => ⟨rfl, _, rfl⟩
    · exact sent fun _ => ⟨rfl, _, rfl⟩
    · exact sent fun declined => absurd (accepted.1 rfl) declined

/-! ## Calls for one slot -/

/-- All that was added are calls for the command buffer of slot `index`. -/
def Tends (s : Session) (index : Nat) (s' : Session) : Prop :=
  s.machine.Adds (fun event => ∃ slot ∈ s.pool.slots[index]?, event.call.Tends slot.commandBuffer) s'.machine

theorem tends_of_slot (hslot : s.pool.slots[index]? = some slot)
    (adds : s.machine.Adds (·.call.Tends slot.commandBuffer) s'.machine) : s.Tends index s' :=
  adds.mono fun _ tends => ⟨slot, hslot, tends⟩

theorem ends_drain_calls (b : Handle) (s : Session) :
    drain.Ends s fun _ s' => s.machine.Adds (·.call.Tends b) s'.machine := by
  rw [ends_drain]
  cases s.machine.fault .queueWaitIdle <;> exact Machine.adds_event rfl trivial

theorem ends_finishRecording_calls (hslot : s.pool.slots[index]? = some slot) :
    (finishRecording index).Ends s fun _ s' => s.machine.Adds (·.call.Tends slot.commandBuffer) s'.machine := by
  rw [ends_finishRecording, hslot]
  dsimp only
  split
  · cases s.machine.fault .endCommandBuffer <;> exact Machine.adds_event rfl rfl
  · exact .refl _

theorem ends_submission_calls (index : Nat) (b : Handle) (wait : Bool) (s : Session) :
    Ends (if wait then submitAndWait index b else submit index b) s
      fun _ s' => s.machine.Adds (·.call.Tends b) s'.machine :=
  (ends_submission_sent index b wait s).mono fun _ _ ⟨more, sent⟩ =>
    ⟨more, sent.trace, fun event mem => (sent.calls event mem).tends⟩

theorem ends_flush_tends (index : Nat) (wait : Bool) (s : Session) :
    (flush index wait).Ends s fun _ => s.Tends index := by
  rw [ends_flush]
  cases hslot : s.pool.slots[index]? with
  | none => exact .refl _
  | some slot =>
    have submission (s₁ : Session) := ends_submission_calls index slot.commandBuffer wait s₁
    dsimp only
    rcases slot with ⟨b, _ | _ | _ | _⟩ <;> dsimp only at submission ⊢
    case idle => exact .refl _
    case executable => exact (submission s).mono fun _ _ => tends_of_slot hslot
    case recording =>
      refine (ends_finishRecording_calls hslot).mono fun r s₁ adds => ?_
      cases r with
      | error f => exact tends_of_slot hslot adds
      | ok _ => exact (submission s₁).mono fun _ _ adds' => tends_of_slot hslot (adds.trans adds')
    case pending =>
      split
      · refine (ends_drain_calls b s).mono fun r s₁ adds => ?_
        cases r <;> exact tends_of_slot hslot adds
      · exact .refl _

theorem ends_startRecording_calls (index : Nat) (b : Handle) (flags : UInt32) (s : Session) :
    (startRecording index b flags).Ends s fun _ s' => s.machine.Adds (·.call.Tends b) s'.machine := by
  rw [ends_startRecording]
  cases s.machine.fault .beginCommandBuffer <;> exact Machine.adds_event rfl rfl

theorem ends_begin_tends (index : Nat) (flags : UInt32) (s : Session) :
    (begin index flags).Ends s fun _ => s.Tends index := by
  rw [ends_begin]
  cases hslot : s.pool.slots[index]? with
  | none => exact .refl _
  | some slot =>
    have opened (s₁ : Session) := ends_startRecording_calls index slot.commandBuffer flags s₁
    dsimp only
    rcases slot with ⟨b, _ | _ | _ | _⟩ <;> dsimp only at opened ⊢
    case recording => exact .refl _
    case idle | executable => exact (opened s).mono fun _ _ => tends_of_slot hslot
    case pending =>
      refine (ends_drain_calls b _).mono fun r s₁ adds => ?_
      cases r with
      | error f => exact tends_of_slot (s := s) hslot adds
      | ok _ => exact (opened s₁).mono fun _ _ adds' => tends_of_slot (s := s) hslot (adds.trans adds')

end Session

end CopyBench
