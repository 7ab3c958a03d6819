import CopyBench.Machine.Trace
/-!
# The life of a fence

The events about a fence are the one that made it and those of the calls that it is given to. A fence is
one-shot when these are a whole life: it is submitted once, waited for at most once and only if that
submission was accepted, and destroyed at the end.
-/

namespace CopyBench

/-- The fence that a call is given. -/
def Call.fence? : Call → Option Handle
  | .queueSubmit _ _ fence => fence
  | .waitForFence fence _ => some fence
  | .destroyFence fence => some fence
  | _ => none

/-- The fence that an event makes, or that its call is given. -/
def Event.fence? (event : Event) : Option Handle :=
  match event.call, event.reply with
  | .createFence, .handle fence => some fence
  | call, _ => call.fence?

/-- The events about a fence, in order. -/
def about (fence : Handle) (events : List Event) : List Event :=
  events.filter fun event => event.fence? = some fence

/-- The events about a fence that was used for one submission. -/
inductive OneShot (fence : Handle) : List Event → Prop where
  /-- The submission is not accepted, and nobody waits for it. -/
  | refused (queue b : Handle) {reply : Reply} (refused : reply ≠ .done) :
    OneShot fence
      [⟨.createFence, .handle fence⟩, ⟨.queueSubmit queue b (some fence), reply⟩,
        ⟨.destroyFence fence, .done⟩]
  /-- The submission is accepted and waited for once, whatever the wait is answered. -/
  | awaited (queue b : Handle) (timeout : UInt64) (reply : Reply) :
    OneShot fence
      [⟨.createFence, .handle fence⟩, ⟨.queueSubmit queue b (some fence), .done⟩,
        ⟨.waitForFence fence timeout, reply⟩, ⟨.destroyFence fence, .done⟩]

variable {fence other : Handle} {events more : List Event} {event : Event}

@[simp] theorem about_nil (fence : Handle) : about fence [] = [] := rfl

@[simp] theorem about_append (fence : Handle) (events more : List Event) :
    about fence (events ++ more) = about fence events ++ about fence more := List.filter_append ..

/-- An event about no fence does not count for any. -/
theorem about_singleton (none : event.fence? = none) (fence : Handle) : about fence [event] = [] := by
  simp [about, none]

/-- All events of a life are about its fence. -/
theorem OneShot.fence?_eq (life : OneShot fence events) : ∀ event ∈ events, event.fence? = some fence := by
  cases life <;> simp [Event.fence?, Call.fence?]

theorem OneShot.about_self (life : OneShot fence events) : about fence events = events :=
  List.filter_eq_self.2 fun event hmem => decide_eq_true (life.fence?_eq event hmem)

theorem OneShot.about_other (life : OneShot fence events) (apart : other ≠ fence) : about other events = [] := by
  refine List.filter_eq_nil_iff.2 fun event hmem mentions => apart ?_
  exact (Option.some.inj ((life.fence?_eq event hmem).symm.trans (of_decide_eq_true mentions))).symm

end CopyBench
