import CopyBench.Machine.Basic
/-!
# What is added to a trace

A machine never takes an event back. What it adds to its trace is a list of events, and much of what is said
of an action is that each of these has some property.
-/

namespace CopyBench.Machine

/-- The later machine went on from the earlier one, and what it added to the trace has a property. -/
def Adds (P : Event → Prop) (m m' : Machine) : Prop :=
  ∃ more, m'.trace.toList = m.trace.toList ++ more ∧ ∀ event ∈ more, P event

variable {P Q : Event → Prop} {m m₁ m₂ : Machine}

theorem Adds.refl (m : Machine) : Adds P m m := ⟨[], (List.append_nil _).symm, nofun⟩

theorem Adds.trans (h : Adds P m m₁) (h' : Adds P m₁ m₂) : Adds P m m₂ := by
  obtain ⟨more, trace, all⟩ := h
  obtain ⟨more', trace', all'⟩ := h'
  exact ⟨more ++ more', by rw [trace', trace, List.append_assoc], List.forall_mem_append.2 ⟨all, all'⟩⟩

theorem Adds.mono (h : Adds P m m₁) (weaken : ∀ event, P event → Q event) : Adds Q m m₁ := by
  obtain ⟨more, trace, all⟩ := h
  exact ⟨more, trace, fun event mem => weaken event (all event mem)⟩

theorem Adds.silent (h : Adds P m m₁) (trace : m₂.trace = m₁.trace) : Adds P m m₂ := by
  obtain ⟨more, trace₁, all⟩ := h
  exact ⟨more, by rw [trace, trace₁], all⟩

theorem adds_event {event : Event} (trace : m₁.trace = m.trace.push event) (holds : P event) : Adds P m m₁ :=
  ⟨[event], by rw [trace, Array.toList_push], List.forall_mem_singleton.2 holds⟩

theorem Adds.event (h : Adds P m m₁) {event : Event} (trace : m₂.trace = m₁.trace.push event)
    (holds : P event) : Adds P m m₂ :=
  h.trans (adds_event trace holds)

end CopyBench.Machine
