import CopyBench.Proofs.Trace.Ledger
/-!
# What a trace submits

The command buffers that a trace submits with success, and the calls that deliver recorded work: those
end command buffers, submit them and wait. Such calls neither begin a command buffer nor record into one,
so what they do to a ledger is told by the submissions among them.
-/

namespace CopyBench

/-- The command buffer that an event submits with success. -/
def Event.submits (event : Event) : Option Handle :=
  match event.call, event.reply with
  | .queueSubmit _ b _, .done => some b
  | _, _ => none

/-- Whether an event is a submission with a fence that succeeds. -/
def Event.fenced (event : Event) : Bool :=
  match event.call, event.reply with
  | .queueSubmit _ _ (some _), .done => true
  | _, _ => false

theorem Event.fenced_of_submits {event : Event} (h : event.submits = none) : event.fenced = false := by
  rcases event with ⟨call, reply⟩
  unfold fenced
  split
  case h_1 hcall hreply =>
    dsimp only at hcall hreply
    subst hcall hreply
    cases h
  case h_2 => rfl

/-- The command buffers that were submitted with success, in order. -/
def submitted (events : List Event) : List Handle := events.filterMap Event.submits

@[simp] theorem submitted_nil : submitted [] = [] := rfl

@[simp] theorem submitted_cons (event : Event) (events : List Event) :
    submitted (event :: events) = event.submits.toList ++ submitted events := by
  rw [submitted, submitted, List.filterMap_cons]
  cases event.submits <;> rfl

@[simp] theorem submitted_append (events more : List Event) :
    submitted (events ++ more) = submitted events ++ submitted more :=
  List.filterMap_append

theorem Event.submits_eq_some {event : Event} {b : Handle} :
    event.submits = some b ↔ ∃ queue fence, event = ⟨.queueSubmit queue b fence, .done⟩ := by
  constructor
  · intro h
    rcases event with ⟨call, reply⟩
    unfold submits at h
    dsimp only at h
    split at h
    · cases h
      exact ⟨_, _, rfl⟩
    · cases h
  · rintro ⟨queue, fence, rfl⟩
    rfl

/-- The command buffers that a call names. -/
def Call.commandBuffers : Call → List Handle
  | .beginCommandBuffer b _ | .endCommandBuffer b | .copyBuffer b _ _ _ | .queueSubmit _ b _ => [b]
  | .destroyCommandPool _ bs | .freeCommandBuffers _ bs => bs
  | _ => []

/-- Whether a call is one of those that deliver recorded work. -/
def Call.Delivers : Call → Prop
  | .endCommandBuffer _ | .queueSubmit _ _ _ | .queueWaitIdle _ | .createFence | .waitForFence _ _
  | .destroyFence _ => True
  | _ => False

theorem Ledger.book_of_not_submits (ledger : Ledger) {event : Event} (delivers : event.call.Delivers)
    (h : event.submits = none) : ledger.book event = ledger := by
  rcases event with ⟨call, reply⟩
  unfold book
  dsimp only at delivers ⊢
  split
  · exact delivers.elim
  · cases h
  · exact delivers.elim
  · rfl

/-- Delivering calls that submit each command buffer at most once execute what the submitted ones held,
in the order of the submissions. -/
theorem Ledger.of_delivered (events : List Event) {more : List Event}
    (delivers : ∀ event ∈ more, event.call.Delivers) (once : (submitted more).Nodup) :
    of (events ++ more) = { of events with
      held := fun b => if b ∈ submitted more then [] else (of events).held b
      executed := (of events).executed ++ (submitted more).flatMap (of events).held } := by
  induction more using List.reverseRecOn with
  | nil => simp
  | append_singleton more event ih =>
    rw [submitted_append] at once
    obtain ⟨before, -, apart⟩ := List.nodup_append.1 once
    have ih := ih (fun e he => delivers e (List.mem_append_left _ he)) before
    rw [← List.append_assoc, of_snoc]
    cases h : event.submits with
    | none =>
      rw [book_of_not_submits _ (delivers event (by simp)) h, ih]
      simp [h]
    | some b =>
      obtain ⟨queue, fence, rfl⟩ := Event.submits_eq_some.1 h
      have fresh : b ∉ submitted more := fun hmem => apart b hmem b (by simp [h]) rfl
      rw [ih]
      simp only [book, submitted_append, submitted_cons, h, submitted_nil, Option.toList_some,
        List.append_nil, List.flatMap_append, List.flatMap_singleton, if_neg fresh, List.append_assoc,
        Ledger.mk.injEq, and_true]
      funext b'
      by_cases hb : b' = b
      · simp [clear, hb]
      · simp [clear, hb]

end CopyBench
