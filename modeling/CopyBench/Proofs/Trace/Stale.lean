import CopyBench.Machine.Basic
/-!
# Stale submissions

A command buffer holds the copies that it was given since it was last begun or handed to the machine.
Handing it over is stale when a buffer that one of these copies names has been destroyed by then.
-/

namespace CopyBench

/-- What a command buffer holds, after one more event. -/
def holdingNext (commandBuffer : Handle) (held : List RecordedCopy) (event : Event) : List RecordedCopy :=
  match event.call, event.reply with
  | .copyBuffer b source destination region, .done =>
    if b = commandBuffer then held ++ [⟨source, destination, region⟩] else held
  | .beginCommandBuffer b _, .done => if b = commandBuffer then [] else held
  | .queueSubmit _ b _, .done => if b = commandBuffer then [] else held
  | .queueSubmit _ b _, .crashed => if b = commandBuffer then [] else held
  | _, _ => held

/-- The copies that a command buffer holds after some events. -/
def holding (events : List Event) (commandBuffer : Handle) : List RecordedCopy :=
  events.foldl (holdingNext commandBuffer) []

@[simp] theorem holding_snoc (events : List Event) (event : Event) (b : Handle) :
    holding (events ++ [event]) b = holdingNext b (holding events b) event := by
  simp [holding]

/-- An event that leaves alone what a command buffer holds. -/
def Event.Spares (event : Event) (commandBuffer : Handle) : Prop :=
  ∀ held, holdingNext commandBuffer held event = held

theorem holding_append_spared {more : List Event} {b : Handle} (spared : ∀ event ∈ more, event.Spares b)
    (events : List Event) : holding (events ++ more) b = holding events b := by
  induction more generalizing events with
  | nil => rw [List.append_nil]
  | cons event more ih =>
    rw [List.append_cons, ih fun e mem => spared e (List.mem_cons_of_mem _ mem), holding_snoc,
      spared event List.mem_cons_self]

/-- A submission that reaches the machine, whether or not it breaks down there. -/
def Event.HandsOver (event : Event) (commandBuffer : Handle) : Prop :=
  ∃ queue fence, event.call = .queueSubmit queue commandBuffer fence ∧
    (event.reply = .done ∨ event.reply = .crashed)

/-- A buffer was destroyed. -/
def Destroyed (events : List Event) (buffer : Handle) : Prop := ⟨.destroyBuffer buffer, .done⟩ ∈ events

/-- An event hands over a copy from or to a buffer that was destroyed before it. -/
def Event.StaleAfter (event : Event) (events : List Event) : Prop :=
  ∃ b, event.HandsOver b ∧
    ∃ copy ∈ holding events b, Destroyed events copy.source ∨ Destroyed events copy.destination

/-- Some event of a trace hands over a copy from or to a buffer that was destroyed before it. -/
def Stale (events : List Event) : Prop :=
  ∃ before event later, events = before ++ event :: later ∧ event.StaleAfter before

/-- Something broke down. -/
def Crashed (events : List Event) : Prop := ∃ event ∈ events, event.reply = .crashed

instance (events : List Event) : Decidable (Crashed events) :=
  inferInstanceAs (Decidable (∃ event ∈ events, event.reply = .crashed))

theorem not_stale_nil : ¬Stale [] := by
  rintro ⟨before, event, later, hsplit, -⟩
  simp at hsplit

theorem stale_snoc (events : List Event) (event : Event) :
    Stale (events ++ [event]) ↔ Stale events ∨ event.StaleAfter events := by
  constructor
  · rintro ⟨before, other, later, hsplit, h⟩
    rcases List.eq_nil_or_concat later with rfl | ⟨later, last, rfl⟩
    · obtain ⟨rfl, hlast⟩ := List.append_inj' hsplit rfl
      cases hlast
      exact .inr h
    · rw [List.concat_eq_append, ← List.cons_append, ← List.append_assoc] at hsplit
      exact .inl ⟨before, other, later, (List.append_inj' hsplit rfl).1, h⟩
  · rintro (⟨before, other, later, rfl, h⟩ | h)
    · exact ⟨before, other, later ++ [event], by simp, h⟩
    · exact ⟨events, event, [], rfl, h⟩

/-! ## Plain events -/

/-- An event that gives no command buffer anything, takes nothing out of one and does not break down. -/
structure Event.Plain (event : Event) : Prop where
  calm : event.reply ≠ .crashed
  keeps : ∀ b held, holdingNext b held event = held
  stays : ∀ b, ¬event.HandsOver b

/-- Calls that have nothing to do with what command buffers hold. -/
def Call.Inert : Call → Prop
  | .copyBuffer .. | .beginCommandBuffer .. | .queueSubmit .. => False
  | _ => True

theorem plain_failed (call : Call) (code : ResultCode) : Event.Plain ⟨call, .failed code⟩ := by
  refine ⟨by simp, fun b held => ?_, ?_⟩
  · cases call <;> rfl
  · rintro b ⟨queue, fence, -, h | h⟩ <;> cases h

theorem plain_of_inert {call : Call} {reply : Reply} (inert : call.Inert)
    (calm : reply ≠ .crashed := by simp) :
    Event.Plain ⟨call, reply⟩ := by
  refine ⟨calm, fun b held => ?_, ?_⟩
  · cases call <;> first | rfl | exact inert.elim
  · rintro b ⟨queue, fence, h, -⟩
    cases h
    exact inert

theorem holding_append_plain {more : List Event} (plain : ∀ event ∈ more, event.Plain)
    (events : List Event) (b : Handle) : holding (events ++ more) b = holding events b :=
  holding_append_spared (fun event mem => (plain event mem).keeps b) events

theorem stale_append_plain {more : List Event} (plain : ∀ event ∈ more, event.Plain)
    (events : List Event) : Stale (events ++ more) ↔ Stale events := by
  induction more generalizing events with
  | nil => rw [List.append_nil]
  | cons event more ih =>
    rw [List.append_cons, ih fun e he => plain e (List.mem_cons_of_mem _ he), stale_snoc]
    refine or_iff_left ?_
    rintro ⟨b, hover, -⟩
    exact (plain event List.mem_cons_self).stays b hover

/-- Among plain events, of which the earlier ones destroy nothing, a command buffer is handed over. -/
def HandedOver (b : Handle) (reply : Reply) (more : List Event) : Prop :=
  ∃ before queue fence later, more = before ++ ⟨.queueSubmit queue b fence, reply⟩ :: later ∧
    (∀ event ∈ before, event.Plain ∧ ∀ h, event.call ≠ .destroyBuffer h) ∧ ∀ event ∈ later, event.Plain

theorem HandedOver.cons {b : Handle} {reply : Reply} {more : List Event} {event : Event}
    (h : HandedOver b reply more) (plain : event.Plain) (spares : ∀ h, event.call ≠ .destroyBuffer h) :
    HandedOver b reply (event :: more) := by
  obtain ⟨before, queue, fence, later, rfl, quiet, plain'⟩ := h
  exact ⟨event :: before, queue, fence, later, rfl, List.forall_mem_cons.2 ⟨⟨plain, spares⟩, quiet⟩, plain'⟩

theorem stale_handedOver {b : Handle} {reply : Reply} {more : List Event} (handed : HandedOver b reply more)
    (reached : reply = .done ∨ reply = .crashed) (events : List Event) :
    Stale (events ++ more) ↔ Stale events ∨
      ∃ copy ∈ holding events b, Destroyed events copy.source ∨ Destroyed events copy.destination := by
  obtain ⟨before, queue, fence, later, rfl, quiet, plain'⟩ := handed
  have plain (event) (hmem : event ∈ before) := (quiet event hmem).1
  have destroyed_iff (h : Handle) : Destroyed (events ++ before) h ↔ Destroyed events h :=
    List.mem_append.trans (or_iff_left fun hmem => (quiet _ hmem).2 h rfl)
  have hands_iff (b' : Handle) : Event.HandsOver ⟨.queueSubmit queue b fence, reply⟩ b' ↔ b = b' := by
    constructor
    · rintro ⟨queue', fence', h, -⟩
      cases h
      rfl
    · rintro rfl
      exact ⟨queue, fence, rfl, reached⟩
  rw [List.append_cons, ← List.append_assoc, ← List.append_assoc, stale_append_plain plain', stale_snoc,
    stale_append_plain plain]
  simp only [Event.StaleAfter, holding_append_plain plain, destroyed_iff, hands_iff, exists_eq_left']

theorem not_crashed_of_plain {more : List Event} (plain : ∀ event ∈ more, event.Plain) : ¬Crashed more := by
  rintro ⟨event, hmem, hcrashed⟩
  exact (plain event hmem).calm hcrashed

theorem crashed_handedOver {b : Handle} {reply : Reply} {more : List Event}
    (handed : HandedOver b reply more) : Crashed more ↔ reply = .crashed := by
  obtain ⟨before, queue, fence, later, rfl, quiet, plain⟩ := handed
  constructor
  · rintro ⟨event, hmem, hcrashed⟩
    rcases List.mem_append.1 hmem with hmem | hmem
    · exact absurd hcrashed (quiet event hmem).1.calm
    rcases List.mem_cons.1 hmem with rfl | hmem
    · exact hcrashed
    · exact absurd hcrashed (plain event hmem).calm
  · intro hreply
    exact ⟨_, List.mem_append_right _ List.mem_cons_self, hreply⟩

theorem crashed_append (events more : List Event) :
    Crashed (events ++ more) ↔ Crashed events ∨ Crashed more := by
  simp [Crashed, or_and_right, exists_or]

end CopyBench
