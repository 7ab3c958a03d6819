import CopyBench.Machine.Trace
/-!
# Command buffers as their device sees them

The events of a trace say where each command buffer stands. A call that failed changes nothing. A
trace is lawful when no call in it comes at a wrong time for its command buffer.
-/

namespace CopyBench

/-- Where a command buffer stands on its device. -/
inductive Phase where
  | rest
  | recording
  | executable
  /-- Submitted, and since then neither the fence nor the queue was waited for with success. -/
  | inFlight (queue : Handle) (fence : Option Handle)
deriving DecidableEq, Repr

namespace Phase

/-- Whether the device may be executing the command buffer. -/
def busy : Phase → Bool
  | inFlight _ _ => true
  | _ => false

/-- Whether the command buffer may hold work that was not submitted yet. -/
def holds : Phase → Bool
  | recording | executable => true
  | _ => false

/-- The phase of a command buffer after one more event. -/
def step (commandBuffer : Handle) (phase : Phase) (event : Event) : Phase :=
  match event.call, event.reply with
  | .beginCommandBuffer b _, .done => if b = commandBuffer then recording else phase
  | .endCommandBuffer b, .done => if b = commandBuffer then executable else phase
  | .queueSubmit queue b fence, .done =>
    if b = commandBuffer then inFlight queue fence else phase
  | .waitForFence waited _, .done =>
    match phase with
    | inFlight _ (some fence) => if fence = waited then rest else phase
    | _ => phase
  | .queueWaitIdle drained, .done =>
    match phase with
    | inFlight queue _ => if queue = drained then rest else phase
    | _ => phase
  | _, _ => phase

end Phase

/-- The phase of a command buffer after some events, from rest. -/
def phase (events : List Event) (commandBuffer : Handle) : Phase :=
  events.foldl (Phase.step commandBuffer) .rest

@[simp] theorem phase_nil (commandBuffer : Handle) : phase [] commandBuffer = .rest := rfl

@[simp] theorem phase_append (events more : List Event) (commandBuffer : Handle) :
    phase (events ++ more) commandBuffer =
      more.foldl (Phase.step commandBuffer) (phase events commandBuffer) :=
  List.foldl_append ..

theorem phase_snoc (events : List Event) (event : Event) (commandBuffer : Handle) :
    phase (events ++ [event]) commandBuffer =
      (phase events commandBuffer).step commandBuffer event := by
  simp

@[simp] theorem Phase.step_failed (commandBuffer : Handle) (phase : Phase) (call : Call)
    (code : ResultCode) : phase.step commandBuffer ⟨call, .failed code⟩ = phase := by
  cases call <;> rfl

/-- Only a submission puts a command buffer in flight. -/
theorem Phase.step_eq_inFlight {b queue : Handle} {fence : Option Handle} {phase : Phase} {event : Event}
    (h : phase.step b event = .inFlight queue fence) :
    phase = .inFlight queue fence ∨ event = ⟨.queueSubmit queue b fence, .done⟩ := by
  rcases event with ⟨call, reply⟩
  unfold step at h
  dsimp only at h
  split at h
  case h_3 =>
    split at h
    · subst b
      cases h
      exact .inr rfl
    · exact .inl h
  all_goals
    repeat' split at h
    all_goals first | exact .inl h | cases h

/-- Whether a call is about one command buffer and moves it on. -/
def Call.Moves (commandBuffer : Handle) : Call → Prop
  | .beginCommandBuffer b _ => b = commandBuffer
  | .endCommandBuffer b => b = commandBuffer
  | .queueSubmit _ b _ => b = commandBuffer
  | _ => False

/-- The calls about others leave a command buffer where it is or bring it to rest from flight. -/
theorem Phase.step_of_other {b : Handle} {event : Event} (other : ¬event.call.Moves b) (phase : Phase) :
    phase.step b event = phase ∨ phase.busy = true ∧ phase.step b event = .rest := by
  rcases event with ⟨call, reply⟩
  unfold step
  dsimp only at other ⊢
  split
  case h_1 | h_2 | h_3 => exact .inl (if_neg other)
  case h_4 | h_5 =>
    split
    · split
      · exact .inr ⟨rfl, rfl⟩
      · exact .inl rfl
    · exact .inl rfl
  case h_6 => exact .inl rfl

/-- Whether a call comes at the right time for its command buffer. -/
def Call.Lawful (phase : Handle → Phase) : Call → Prop
  | .beginCommandBuffer b _ => phase b ≠ .recording ∧ (phase b).busy = false
  | .endCommandBuffer b => phase b = .recording
  | .copyBuffer b _ _ _ => phase b = .recording
  | .queueSubmit _ b _ => phase b = .executable
  | _ => True

/-- Every call, failed or not, came at the right time. -/
def Lawful (events : List Event) : Prop :=
  ∀ before event after, events = before ++ event :: after → event.call.Lawful (phase before)

theorem Lawful.nil : Lawful [] := by
  intro before event after h
  simp at h

theorem Lawful.snoc {events : List Event} {event : Event} (h : Lawful events)
    (he : event.call.Lawful (phase events)) : Lawful (events ++ [event]) := by
  intro before event' after heq
  rcases List.eq_nil_or_concat after with rfl | ⟨after, last, rfl⟩
  · obtain ⟨rfl, hlast⟩ := List.append_inj' heq rfl
    cases hlast
    exact he
  · rw [List.concat_eq_append, ← List.cons_append, ← List.append_assoc] at heq
    exact h before event' after (List.append_inj' heq rfl).1

theorem Lawful.of_snoc {events : List Event} {event : Event} (h : Lawful (events ++ [event])) :
    Lawful events ∧ event.call.Lawful (phase events) := by
  refine ⟨fun before event' after heq => h before event' (after ++ [event]) ?_, h events event [] rfl⟩
  rw [heq, List.append_assoc, List.cons_append]

end CopyBench
