import CopyBench.Proofs.Buffer.Runs
import CopyBench.Proofs.Trace.Taken
/-!
# What the trace says of a machine

Every step under a workspace adds one event to the trace or none, and the event says what the step does with
command buffers and how many copies it executes. So the trace alone tells what command buffers hold, and how
many copies were executed.
-/

namespace CopyBench

open CopyBench.Action

namespace Machine

/-- A step after which command buffers, and the count of copies, are as the event says which it adds to the
trace, or are the same when it adds none. -/
inductive Logged (m m' : Machine) : Prop where
  | silent (trace : m'.trace = m.trace) (recorded : m'.recorded = m.recorded)
    (count : m'.counters.copiesExecuted = m.counters.copiesExecuted)
  | event {event : Event} (trace : m'.trace = m.trace.push event)
    (work : ∀ b, m'.work b = holdingNext b (m.work b) event)
    (count : event.reply ≠ .crashed →
      m'.counters.copiesExecuted = m.counters.copiesExecuted + event.executes m.work)

variable {m m' : Machine}

theorem executes_of_plain {event : Event} (plain : event.Plain) (held : Handle → List RecordedCopy) :
    event.executes held = 0 := by
  obtain ⟨call, reply⟩ := event
  cases call with
  | queueSubmit queue b fence =>
    cases reply with
    | done => exact (plain.stays b ⟨queue, fence, rfl, .inl rfl⟩).elim
    | _ => rfl
  | _ => cases reply <;> rfl

/-- A step with a plain event. -/
theorem logged_plain {event : Event} (trace : m'.trace = m.trace.push event) (plain : event.Plain)
    (recorded : m'.recorded = m.recorded)
    (count : m'.counters.copiesExecuted = m.counters.copiesExecuted) : Logged m m' := by
  refine .event trace (fun b => ?_) fun _ => ?_
  · rw [plain.keeps, work, recorded, work]
  · rw [executes_of_plain plain, count, Nat.add_zero]

theorem Step.logged (step : Step m m') : Logged m m' := by
  cases step with
  | told note => exact .silent rfl rfl rfl
  | named | ended | drained | fenced | waited | unfenced => exact logged_plain rfl (plain_of_inert trivial) rfl rfl
  | refused point call code => exact logged_plain rfl (plain_failed call code) rfl rfl
  | lost point call code => exact logged_plain rfl (plain_failed call code) rfl rfl
  | began b flags =>
    refine .event (trace_began ..) (fun b' => ?_) fun _ => rfl
    rw [work_began]
    simp only [holdingNext, eq_comm]
  | @handed m₁ b fence cause queue run =>
    obtain ⟨counters, hframe, hcount⟩ := executed_frame run
    have trace : (m₁.traced (.queueSubmit queue b fence) (handedReply cause)).trace =
        m.trace.push ⟨.queueSubmit queue b fence, handedReply cause⟩ := by
      rw [trace_traced, trace_executed run]
    refine .event trace (fun b' => ?_) fun calm => ?_
    · rw [work_traced, work_executed run]
      cases cause <;> simp only [holdingNext, handedReply, eq_comm]
    · cases cause with
      | some cause => exact absurd rfl calm
      | none =>
        have counted : m₁.counters = counters := (congrArg Machine.counters hframe).trans rfl
        exact (congrArg Counters.copiesExecuted counted).trans (hcount rfl)

theorem BufferStep.logged (step : BufferStep m m') : Logged m m' := by
  cases step with
  | told note => exact .silent rfl rfl rfl
  | named | buffered | allocated | bound | mapped | unmapped | destroyed | freed =>
    exact logged_plain rfl (plain_of_inert trivial) rfl rfl
  | refused point code on => exact logged_plain rfl (plain_failed _ code) rfl rfl
  | unmappable => exact logged_plain rfl (plain_failed ..) rfl rfl
  | overwritten memory offset patch =>
    unfold Machine.overwritten
    split <;> exact .silent rfl rfl rfl

theorem DeviceStep.logged (step : DeviceStep m m') : Logged m m' := by
  cases step with
  | aside step => exact step.logged
  | buffer step => exact step.logged
  | queued b copy =>
    refine .event (trace_queued ..) (fun b' => ?_) fun _ => rfl
    rw [work_queued]
    simp only [holdingNext, eq_comm]

/-- Whatever is done with a device, no event is lost. -/
theorem DeviceSteps.grown (steps : DeviceSteps m m') :
    ∃ more, m'.trace.toList = m.trace.toList ++ more := by
  induction steps with
  | refl => exact ⟨[], (List.append_nil _).symm⟩
  | tail _ last ih =>
    obtain ⟨more, hmore⟩ := ih
    cases last.logged with
    | silent trace => exact ⟨more, by rw [trace, hmore]⟩
    | @event event trace => exact ⟨more ++ [event], by rw [trace, Array.toList_push, hmore, List.append_assoc]⟩

/-- Command buffers hold what the trace says, and unless something broke down, as many copies were executed
as its ledger says. -/
structure Booked (m : Machine) : Prop where
  work : ∀ b, m.work b = holding m.trace.toList b
  count : ¬Crashed m.trace.toList →
    m.counters.copiesExecuted = (Ledger.taken m.trace.toList).executed.length

theorem Logged.booked (logged : Logged m m') (h : m.Booked) : m'.Booked := by
  cases logged with
  | silent trace recorded count =>
    refine ⟨fun b => ?_, fun calm => ?_⟩
    · rw [Machine.work, recorded, trace]
      exact h.work b
    · rw [trace] at calm ⊢
      rw [count]
      exact h.count calm
  | @event event trace work count =>
    have list : m'.trace.toList = m.trace.toList ++ [event] := by rw [trace, Array.toList_push]
    refine ⟨fun b => ?_, fun calm => ?_⟩
    · rw [list, holding_snoc, ← h.work, work]
    · rw [list, crashed_append, not_or] at calm
      have last : event.reply ≠ .crashed := fun hreply => calm.2 ⟨event, List.mem_singleton.2 rfl, hreply⟩
      rw [list, Ledger.executed_taken _ last, count last, h.count calm.1, funext h.work]

/-- Whatever is done with a device, its books stay in order. -/
theorem DeviceSteps.booked (steps : DeviceSteps m m') (h : m.Booked) : m'.Booked := by
  induction steps with
  | refl => exact h
  | tail _ last ih => exact last.logged.booked ih

end Machine

theorem Workspace.New.booked {start : Workspace} (new : start.New) : start.session.machine.Booked := by
  obtain ⟨-, profile, schedule, lostSubmits, lostWaits, device, queue, depth, family, level, created⟩ := new
  obtain ⟨-, -, -, hmachine⟩ := CommandPool.create_eq created
  rw [hmachine]
  unfold CommandPool.created Machine.pooled
  rw [Machine.announced_frame]
  unfold Machine.announced
  cases device.route <;> exact ⟨fun _ => rfl, fun _ => rfl⟩

end CopyBench
