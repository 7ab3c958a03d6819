import CopyBench.Proofs.Trace.Stale
/-!
# Submissions under way

A submission that was accepted is under way until the wait for its fence, or one for its queue, has
succeeded. A buffer is in use while some submission is under way that copies from it or to it. While
nothing is under way nothing can be released in use. A wait for a fence that fails leaves its submission
under way, and then only another wait can end that.
-/

namespace CopyBench

/-- The event confirms the submissions to a queue with a fence: their fence, or the queue itself, was waited
for with success. -/
def Event.Confirms (event : Event) (queue : Handle) (fence : Option Handle) : Prop :=
  event = ⟨.queueWaitIdle queue, .done⟩ ∨
    ∃ f timeout, fence = some f ∧ event = ⟨.waitForFence f timeout, .done⟩

/-- A submission of some copies was accepted, and was not confirmed since. -/
def Underway (events : List Event) (queue : Handle) (fence : Option Handle) (copies : List RecordedCopy) : Prop :=
  ∃ before b later, events = before ++ ⟨.queueSubmit queue b fence, .done⟩ :: later ∧
    copies = holding before b ∧ ∀ event ∈ later, ¬event.Confirms queue fence

/-- A submission is under way that copies from or to the buffer. -/
def InUse (events : List Event) (buffer : Handle) : Prop :=
  ∃ queue fence copies, Underway events queue fence copies ∧
    ∃ copy ∈ copies, copy.source = buffer ∨ copy.destination = buffer

/-- The event destroys a buffer, or frees a memory that the buffer was bound to. -/
def Event.Releases (event : Event) (events : List Event) (buffer : Handle) : Prop :=
  event.call = .destroyBuffer buffer ∨
    ∃ memory, event.call = .freeMemory memory ∧ ⟨.bindBufferMemory buffer memory, .done⟩ ∈ events

/-- Some event of a trace releases a buffer that is in use. -/
def ReleasedInUse (events : List Event) : Prop :=
  ∃ before event later buffer, events = before ++ event :: later ∧ event.Releases before buffer ∧
    InUse before buffer

/-- Some wait for a fence failed. -/
def WaitFailed (events : List Event) : Prop :=
  ∃ fence timeout code, ⟨.waitForFence fence timeout, .failed code⟩ ∈ events

variable {events more : List Event} {event : Event} {queue b fence buffer : Handle} {timeout : UInt64}

/-! ## One event more -/

/-- Where a list with one more element can be split: at that element, or before it. -/
theorem snoc_eq_split {α : Type} {l before later : List α} {a last : α} :
    l ++ [last] = before ++ a :: later ↔ (l = before ∧ last = a ∧ later = []) ∨
      ∃ later', later = later' ++ [last] ∧ l = before ++ a :: later' := by
  constructor
  · intro h
    rcases List.eq_nil_or_concat later with rfl | ⟨later', last', rfl⟩
    · obtain ⟨rfl, hlast⟩ := List.append_inj' h rfl
      cases hlast
      exact .inl ⟨rfl, rfl, rfl⟩
    · rw [List.concat_eq_append, ← List.cons_append, ← List.append_assoc] at h
      obtain ⟨rfl, hlast⟩ := List.append_inj' h rfl
      cases hlast
      exact .inr ⟨later', List.concat_eq_append, rfl⟩
  · rintro (⟨rfl, rfl, rfl⟩ | ⟨later', rfl, rfl⟩)
    · rfl
    · rw [List.append_assoc, List.cons_append]

/-- A submission is under way when it was, unless it is confirmed now, or when it is accepted now. -/
theorem underway_snoc {fence : Option Handle} {copies : List RecordedCopy} :
    Underway (events ++ [event]) queue fence copies ↔
      (Underway events queue fence copies ∧ ¬event.Confirms queue fence) ∨
        ∃ b, event = ⟨.queueSubmit queue b fence, .done⟩ ∧ copies = holding events b := by
  constructor
  · rintro ⟨before, b, later, hsplit, hcopies, unconfirmed⟩
    obtain ⟨rfl, rfl, rfl⟩ | ⟨later', rfl, rfl⟩ := snoc_eq_split.1 hsplit
    · exact .inr ⟨b, rfl, hcopies⟩
    · obtain ⟨earlier, last⟩ := List.forall_mem_append.1 unconfirmed
      exact .inl ⟨⟨before, b, later', rfl, hcopies, earlier⟩, last event (List.mem_singleton.2 rfl)⟩
  · rintro (⟨⟨before, b, later, rfl, hcopies, unconfirmed⟩, last⟩ | ⟨b, rfl, hcopies⟩)
    · refine ⟨before, b, later ++ [event], by simp, hcopies, List.forall_mem_append.2 ⟨unconfirmed, ?_⟩⟩
      exact fun _ hmem => List.mem_singleton.1 hmem ▸ last
    · exact ⟨events, b, [], rfl, hcopies, nofun⟩

/-- A buffer is released in use when one was, or when one is now. -/
theorem releasedInUse_snoc : ReleasedInUse (events ++ [event]) ↔
    ReleasedInUse events ∨ ∃ buffer, event.Releases events buffer ∧ InUse events buffer := by
  constructor
  · rintro ⟨before, other, later, buffer, hsplit, releases, inUse⟩
    obtain ⟨rfl, rfl, rfl⟩ | ⟨later', rfl, rfl⟩ := snoc_eq_split.1 hsplit
    · exact .inr ⟨buffer, releases, inUse⟩
    · exact .inl ⟨before, other, later', buffer, rfl, releases, inUse⟩
  · rintro (⟨before, other, later, buffer, rfl, h⟩ | ⟨buffer, h⟩)
    · exact ⟨before, other, later ++ [event], buffer, by simp, h⟩
    · exact ⟨events, event, [], buffer, rfl, h⟩

theorem waitFailed_append : WaitFailed (events ++ more) ↔ WaitFailed events ∨ WaitFailed more := by
  simp only [WaitFailed, List.mem_append, exists_or]

/-! ## While nothing is under way -/

/-- Nothing is under way, no buffer was released in use, and no wait for a fence failed. -/
structure Calm (events : List Event) : Prop where
  confirmed : ∀ queue fence copies, ¬Underway events queue fence copies
  unreleased : ¬ReleasedInUse events
  waited : ¬WaitFailed events

/-- Neither a submission that is accepted nor a wait for a fence that fails. -/
def Event.Quiet (event : Event) : Prop :=
  match event.call, event.reply with
  | .queueSubmit _ _ _, .done | .waitForFence _ _, .failed _ => False
  | _, _ => True

/-- Calls that neither submit nor wait. -/
def Call.Aloof : Call → Prop
  | .queueSubmit .. | .waitForFence .. | .queueWaitIdle .. => False
  | _ => True

theorem quiet_of_aloof (aloof : event.call.Aloof) : event.Quiet := by
  rcases event with ⟨call, reply⟩
  cases call <;> first | exact aloof.elim | trivial

theorem calm_nil : Calm [] where
  confirmed := by
    rintro queue fence copies ⟨before, b, later, hsplit, -⟩
    simp at hsplit
  unreleased := by
    rintro ⟨before, event, later, buffer, hsplit, -⟩
    simp at hsplit
  waited := by
    rintro ⟨fence, timeout, code, hmem⟩
    cases hmem

namespace Calm

theorem not_inUse (calm : Calm events) : ¬InUse events buffer := by
  rintro ⟨queue, fence, copies, underway, -⟩
  exact calm.confirmed queue fence copies underway

/-- Without buffers in use none can be released in use. -/
theorem unreleased_snoc (calm : Calm events) (event : Event) : ¬ReleasedInUse (events ++ [event]) := by
  rw [releasedInUse_snoc]
  rintro (released | ⟨buffer, -, inUse⟩)
  · exact calm.unreleased released
  · exact calm.not_inUse inUse

theorem snoc (calm : Calm events) (quiet : event.Quiet) : Calm (events ++ [event]) where
  confirmed := by
    intro queue fence copies
    rw [underway_snoc]
    rintro (⟨underway, -⟩ | ⟨b, rfl, -⟩)
    · exact calm.confirmed queue fence copies underway
    · exact quiet
  unreleased := calm.unreleased_snoc event
  waited := by
    rw [waitFailed_append]
    rintro (failed | ⟨fence, timeout, code, hmem⟩)
    · exact calm.waited failed
    · cases List.mem_singleton.1 hmem
      exact quiet

theorem append (calm : Calm events) (aloof : ∀ event ∈ more, event.call.Aloof) : Calm (events ++ more) := by
  induction more generalizing events with
  | nil => rwa [List.append_nil]
  | cons event more ih =>
    rw [List.append_cons]
    exact ih (calm.snoc (quiet_of_aloof (aloof event List.mem_cons_self)))
      fun e he => aloof e (List.mem_cons_of_mem _ he)

/-- What is accepted and then waited for with success is no longer under way. -/
theorem awaited (calm : Calm events) (queue b fence : Handle) (timeout : UInt64) :
    Calm (events ++ [⟨.queueSubmit queue b (some fence), .done⟩] ++ [⟨.waitForFence fence timeout, .done⟩]) where
  confirmed := by
    intro queue' fence' copies
    rw [underway_snoc, underway_snoc]
    rintro (⟨⟨underway, -⟩ | ⟨b', hevent, -⟩, unconfirmed⟩ | ⟨b', hevent, -⟩)
    · exact calm.confirmed queue' fence' copies underway
    -- What is confirmed here is the submission that was accepted last.
    · cases hevent
      exact unconfirmed (.inr ⟨fence, timeout, rfl, rfl⟩)
    · cases hevent
  unreleased := by
    rw [releasedInUse_snoc, or_iff_right (calm.unreleased_snoc _)]
    rintro ⟨buffer, hcall | ⟨memory, hcall, -⟩, -⟩ <;> cases hcall
  waited := by
    rw [waitFailed_append, waitFailed_append]
    rintro ((failed | ⟨f, timeout, code, hmem⟩) | ⟨f, timeout, code, hmem⟩)
    · exact calm.waited failed
    all_goals cases List.mem_singleton.1 hmem

end Calm

/-! ## After a wait that failed -/

/-- A wait for a fence failed, and the buffer is still in use. -/
structure Doomed (events : List Event) (buffer : Handle) : Prop where
  inUse : InUse events buffer
  failed : WaitFailed events

theorem mem_holding_recorded (events : List Event) (b : Handle) (copy : RecordedCopy) :
    copy ∈ holding (events ++ [⟨.copyBuffer b copy.source copy.destination copy.region, .done⟩]) b := by
  simp [holdingNext]

/-- What is accepted and then waited for in vain is still under way. -/
theorem doomed_of_wait {copy : RecordedCopy} (held : copy ∈ holding events b) (queue fence : Handle)
    (timeout : UInt64) (code : ResultCode) :
    Doomed (events ++ [⟨.queueSubmit queue b (some fence), .done⟩] ++
      [⟨.waitForFence fence timeout, .failed code⟩]) copy.destination where
  inUse := by
    have submitted : Underway (events ++ [⟨.queueSubmit queue b (some fence), .done⟩]) queue (some fence)
        (holding events b) := underway_snoc.2 (.inr ⟨b, rfl, rfl⟩)
    refine ⟨queue, some fence, _, underway_snoc.2 (.inl ⟨submitted, ?_⟩), copy, held, .inr rfl⟩
    rintro (h | ⟨f, timeout', -, h⟩) <;> cases h
  failed := ⟨fence, timeout, code, List.mem_append_right _ (List.mem_singleton.2 rfl)⟩

theorem InUse.append (inUse : InUse events buffer) (aloof : ∀ event ∈ more, event.call.Aloof) :
    InUse (events ++ more) buffer := by
  obtain ⟨queue, fence, copies, ⟨before, b, later, rfl, hcopies, unconfirmed⟩, names⟩ := inUse
  refine ⟨queue, fence, copies, ⟨before, b, later ++ more, by simp, hcopies, ?_⟩, names⟩
  refine List.forall_mem_append.2 ⟨unconfirmed, fun event hmem => ?_⟩
  rintro (rfl | ⟨f, timeout, -, rfl⟩) <;> exact aloof _ hmem

theorem Doomed.append (h : Doomed events buffer) (aloof : ∀ event ∈ more, event.call.Aloof) :
    Doomed (events ++ more) buffer :=
  ⟨h.inUse.append aloof, waitFailed_append.2 (.inl h.failed)⟩

/-- A buffer in use that is destroyed without another wait is released in use. -/
theorem Doomed.releasedInUse (h : Doomed events buffer) (aloof : ∀ event ∈ more, event.call.Aloof)
    (gone : Destroyed more buffer) : ReleasedInUse (events ++ more) := by
  obtain ⟨before, later, rfl⟩ := List.append_of_mem gone
  refine ⟨events ++ before, _, later, buffer, (List.append_assoc ..).symm, .inl rfl, ?_⟩
  exact h.inUse.append fun event hmem => aloof event (List.mem_append_left _ hmem)

end CopyBench
