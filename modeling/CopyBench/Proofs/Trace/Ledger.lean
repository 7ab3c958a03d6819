import CopyBench.Machine.Basic
import CopyBench.Proofs.Trace.Phase
import Mathlib.Data.List.Basic
import Mathlib.Data.List.Induction
/-!
# What became of recorded copies

A ledger numbers the copies that a trace records and says where each one is: held by its command
buffer, executed, or discarded. A submission that succeeds executes what its command buffer holds,
and a begin that succeeds discards it. Along a lawful trace only a command buffer that is recording
or executable holds copies, so only an executable one has copies to discard.
-/

namespace CopyBench

/-- A recorded copy and how many were recorded before it. -/
structure Entry where
  number : Nat
  copy : RecordedCopy
deriving DecidableEq, Repr

/-- Where the copies recorded so far are. -/
structure Ledger where
  /-- The copies that wait in a command buffer, in recording order. -/
  held : Handle → List Entry := fun _ => []
  /-- The executed copies, in the order they were executed. -/
  executed : List Entry := []
  discarded : List Entry := []
  /-- All recorded copies. -/
  entries : List Entry := []

namespace Ledger

/-- Empties a command buffer. -/
def clear (held : Handle → List Entry) (commandBuffer : Handle) : Handle → List Entry := fun b =>
  if b = commandBuffer then [] else held b

/-- Books one event. -/
def book (ledger : Ledger) (event : Event) : Ledger :=
  match event.call, event.reply with
  | .copyBuffer b source destination region, .done =>
    let entry : Entry := ⟨ledger.entries.length, source, destination, region⟩
    { ledger with
      held := fun b' => if b' = b then ledger.held b' ++ [entry] else ledger.held b'
      entries := ledger.entries ++ [entry] }
  | .queueSubmit _ b _, .done =>
    { ledger with
      held := clear ledger.held b
      executed := ledger.executed ++ ledger.held b }
  | .beginCommandBuffer b _, .done =>
    { ledger with
      held := clear ledger.held b
      discarded := ledger.discarded ++ ledger.held b }
  | _, _ => ledger

/-- The ledger of a trace. -/
def of (events : List Event) : Ledger := events.foldl book {}

@[simp] theorem of_nil : of [] = {} := rfl

@[simp] theorem of_snoc (events : List Event) (event : Event) :
    of (events ++ [event]) = (of events).book event := by
  simp [of]

@[simp] theorem book_failed (ledger : Ledger) (call : Call) (code : ResultCode) :
    ledger.book ⟨call, .failed code⟩ = ledger := by
  cases call <;> rfl

theorem executed_book_submit (ledger : Ledger) (queue b : Handle) (fence : Option Handle) :
    (ledger.book ⟨.queueSubmit queue b fence, .done⟩).executed = ledger.executed ++ ledger.held b := rfl

theorem discarded_book_begin (ledger : Ledger) (b : Handle) (flags : UInt32) :
    (ledger.book ⟨.beginCommandBuffer b flags, .done⟩).discarded = ledger.discarded ++ ledger.held b := rfl

@[simp] theorem clear_self (held : Handle → List Entry) (b : Handle) : clear held b b = [] := by
  simp [clear]

theorem clear_of_ne (held : Handle → List Entry) {b b' : Handle} (h : b' ≠ b) :
    clear held b b' = held b' := by
  simp [clear, h]

end Ledger

/-- What a command buffer was given since it was begun, after one more event. -/
def givenNext (commandBuffer : Handle) (given : List RecordedCopy) (event : Event) : List RecordedCopy :=
  match event.call, event.reply with
  | .beginCommandBuffer b _, .done => if b = commandBuffer then [] else given
  | .copyBuffer b source destination region, .done =>
    if b = commandBuffer then given ++ [⟨source, destination, region⟩] else given
  | _, _ => given

/-- The copies that a command buffer was given since it was last begun with success. -/
def sinceBegin (events : List Event) (commandBuffer : Handle) : List RecordedCopy :=
  events.foldl (givenNext commandBuffer) []

theorem sinceBegin_snoc (events : List Event) (event : Event) (b : Handle) :
    sinceBegin (events ++ [event]) b = givenNext b (sinceBegin events b) event := by
  simp [sinceBegin]

/-- What becomes of a copy. -/
inductive Fate where
  | held
  | executed
  | discarded
deriving DecidableEq, Repr

/-- The fate of a copy in a command buffer, after one more event. -/
def Fate.step (commandBuffer : Handle) (fate : Fate) (event : Event) : Fate :=
  match fate, event.call, event.reply with
  | held, .queueSubmit _ b _, .done => if b = commandBuffer then executed else held
  | held, .beginCommandBuffer b _, .done => if b = commandBuffer then discarded else held
  | fate, _, _ => fate

/-- The fate of a copy in a command buffer, from the events after it was recorded: the first
submission or begin of the command buffer that succeeds decides. -/
def fate (commandBuffer : Handle) (later : List Event) : Fate :=
  later.foldl (Fate.step commandBuffer) .held

theorem fate_snoc (b : Handle) (later : List Event) (event : Event) :
    fate b (later ++ [event]) = (fate b later).step b event := by
  simp [fate]

/-- Events that move no copy. -/
structure Event.Idle (event : Event) : Prop where
  book : ∀ ledger : Ledger, ledger.book event = ledger
  given : ∀ b given, givenNext b given event = given
  fate : ∀ b fate, Fate.step b fate event = fate
  holds : ∀ events b, event.call.Lawful (phase events) →
    (phase (events ++ [event]) b).holds = (phase events b).holds

theorem Event.idle_of {event : Event}
    (notBegin : ∀ b flags, event ≠ ⟨.beginCommandBuffer b flags, .done⟩)
    (notSubmit : ∀ queue b fence, event ≠ ⟨.queueSubmit queue b fence, .done⟩)
    (notCopy : ∀ b source destination region,
      event ≠ ⟨.copyBuffer b source destination region, .done⟩) : event.Idle := by
  rcases event with ⟨call, reply⟩
  refine ⟨fun ledger => ?_, fun b given => ?_, fun b fate => ?_, fun events b lawful => ?_⟩
  · unfold Ledger.book
    dsimp only
    split
    · exact (notCopy _ _ _ _ rfl).elim
    · exact (notSubmit _ _ _ rfl).elim
    · exact (notBegin _ _ rfl).elim
    · rfl
  · unfold givenNext
    dsimp only
    split
    · exact (notBegin _ _ rfl).elim
    · exact (notCopy _ _ _ _ rfl).elim
    · rfl
  · unfold Fate.step
    dsimp only
    split
    · exact (notSubmit _ _ _ rfl).elim
    · exact (notBegin _ _ rfl).elim
    · rfl
  · rw [phase_snoc]
    unfold Phase.step
    dsimp only at lawful ⊢
    split
    · exact (notBegin _ _ rfl).elim
    · split
      · subst b
        rw [show phase events _ = .recording from lawful]
        rfl
      · rfl
    · exact (notSubmit _ _ _ rfl).elim
    all_goals repeat' split
    all_goals first | rfl | simp [*, Phase.holds]

/-- The three kinds of event that move copies, and the rest. -/
theorem Event.cases_ledger (event : Event) :
    (∃ b flags, event = ⟨.beginCommandBuffer b flags, .done⟩) ∨
    (∃ queue b fence, event = ⟨.queueSubmit queue b fence, .done⟩) ∨
    (∃ b source destination region, event = ⟨.copyBuffer b source destination region, .done⟩) ∨
    event.Idle := by
  by_cases hb : ∃ b flags, event = ⟨.beginCommandBuffer b flags, .done⟩
  · exact .inl hb
  by_cases hs : ∃ queue b fence, event = ⟨.queueSubmit queue b fence, .done⟩
  · exact .inr (.inl hs)
  by_cases hc : ∃ b source destination region, event = ⟨.copyBuffer b source destination region, .done⟩
  · exact .inr (.inr (.inl hc))
  exact .inr (.inr (.inr (Event.idle_of (fun b flags h => hb ⟨b, flags, h⟩)
    (fun queue b fence h => hs ⟨queue, b, fence, h⟩)
    fun b source destination region h => hc ⟨b, source, destination, region, h⟩)))

/-! ## Where copies are held -/

/-- A command buffer that is recording or executable holds what it was given since it was begun, and
any other holds nothing. -/
theorem held_of_lawful {events : List Event} (lawful : Lawful events) (b : Handle) :
    if (phase events b).holds then ((Ledger.of events).held b).map (·.copy) = sinceBegin events b
    else (Ledger.of events).held b = [] := by
  induction events using List.reverseRecOn with
  | nil => rfl
  | append_singleton events event ih =>
    obtain ⟨lawful, now⟩ := lawful.of_snoc
    have ih := ih lawful
    rw [Ledger.of_snoc]
    rw [sinceBegin_snoc]
    obtain ⟨c, flags, rfl⟩ | ⟨queue, c, fence, rfl⟩ | ⟨c, source, destination, region, rfl⟩ | idle :=
      event.cases_ledger
    · by_cases h : c = b
      · simp [h, Phase.step, Phase.holds, Ledger.book, givenNext]
      · simpa [h, Phase.step, Ledger.book, Ledger.clear_of_ne, Ne.symm h, givenNext] using ih
    · by_cases h : c = b
      · simp [h, Phase.step, Phase.holds, Ledger.book]
      · simpa [h, Phase.step, Ledger.book, Ledger.clear_of_ne, Ne.symm h, givenNext] using ih
    · by_cases h : c = b
      · subst h
        have recording : phase events c = .recording := now
        simp only [recording, Phase.holds, if_true] at ih
        simp [recording, Phase.step, Phase.holds, Ledger.book, givenNext, ih]
      · simpa [h, Phase.step, Ledger.book, Ne.symm h, givenNext] using ih
    · rwa [idle.book, idle.given, idle.holds events b now]

/-! ## Every copy is in one place -/

/-- The copies held in some command buffers. -/
def Ledger.heldIn (held : Handle → List Entry) (bs : List Handle) : List Entry := bs.flatMap held

/-- What one of several command buffers holds can be set apart. -/
theorem Ledger.heldIn_perm (held : Handle → List Entry) {bs : List Handle} (distinct : bs.Nodup) {b : Handle}
    (h : b ∉ bs → held b = []) :
    (heldIn held bs).Perm (held b ++ heldIn (clear held b) bs) := by
  induction bs with
  | nil => simp [heldIn, h]
  | cons c bs ih =>
    obtain ⟨hc, distinct⟩ := List.nodup_cons.1 distinct
    rw [heldIn, heldIn, List.flatMap_cons, List.flatMap_cons]
    by_cases hbc : c = b
    · subst hbc
      have hsame : bs.flatMap (clear held c) = bs.flatMap held :=
        List.flatMap_congr fun b' hb' => clear_of_ne held fun heq => hc (heq ▸ hb')
      rw [hsame, clear_self, List.nil_append]
    · rw [clear_of_ne held hbc]
      have ih := ih distinct fun hb => h (by simp [hb, Ne.symm hbc])
      refine (ih.append_left _).trans ?_
      rw [← List.append_assoc, ← List.append_assoc]
      exact List.perm_append_comm.append_right _

/-- Whether the copies of a trace were all recorded into the command buffers `bs`. -/
def RecordsInto (bs : List Handle) (events : List Event) : Prop :=
  ∀ b source destination region, ⟨.copyBuffer b source destination region, .done⟩ ∈ events → b ∈ bs

theorem RecordsInto.snoc {bs : List Handle} {events : List Event} {event : Event}
    (h : RecordsInto bs events)
    (he : ∀ b source destination region,
      event = ⟨.copyBuffer b source destination region, .done⟩ → b ∈ bs) :
    RecordsInto bs (events ++ [event]) := fun b source destination region hmem =>
  (List.mem_append.1 hmem).elim (h b source destination region) fun hmem =>
    he b source destination region (List.mem_singleton.1 hmem).symm

theorem held_of_not_mem {bs : List Handle} {events : List Event} (into : RecordsInto bs events)
    {b : Handle} (h : b ∉ bs) : (Ledger.of events).held b = [] := by
  induction events using List.reverseRecOn with
  | nil => rfl
  | append_singleton events event ih =>
    have ih := ih fun b source destination region hmem =>
      into b source destination region (List.mem_append_left _ hmem)
    rw [Ledger.of_snoc]
    obtain ⟨c, flags, rfl⟩ | ⟨queue, c, fence, rfl⟩ | ⟨c, source, destination, region, rfl⟩ | idle :=
      event.cases_ledger
    · simp [Ledger.book, Ledger.clear, ih]
    · simp [Ledger.book, Ledger.clear, ih]
    · have hc : c ∈ bs := into c source destination region (by simp)
      have hbc : b ≠ c := fun heq => h (heq ▸ hc)
      simp [Ledger.book, hbc, ih]
    · rw [idle.book, ih]

/-- The copies recorded so far are those held, those executed and those discarded. -/
theorem Ledger.perm_entries {bs : List Handle} {events : List Event} (distinct : bs.Nodup)
    (into : RecordsInto bs events) :
    (heldIn (of events).held bs ++ (of events).executed ++ (of events).discarded).Perm
      (of events).entries := by
  induction events using List.reverseRecOn with
  | nil => simp [heldIn]
  | append_singleton events event ih =>
    have before : RecordsInto bs events := fun b source destination region hmem =>
      into b source destination region (List.mem_append_left _ hmem)
    have ih := ih before
    have apart (b : Handle) := heldIn_perm (of events).held distinct (held_of_not_mem before (b := b))
    rw [of_snoc]
    -- Each booking moves a whole list from one place to another, so it is enough to count.
    rw [List.perm_iff_count] at ih ⊢
    intro entry
    have ih := ih entry
    obtain ⟨c, flags, rfl⟩ | ⟨queue, c, fence, rfl⟩ | ⟨c, source, destination, region, rfl⟩ | idle :=
      event.cases_ledger
    · have moved := (apart c).count_eq entry
      simp only [book, List.count_append] at ih moved ⊢
      omega
    · have moved := (apart c).count_eq entry
      simp only [book, List.count_append] at ih moved ⊢
      omega
    · have hc : c ∈ bs := into c source destination region (by simp)
      have moved := (apart c).count_eq entry
      have grown := (heldIn_perm ((of events).book ⟨.copyBuffer c source destination region, .done⟩).held
        distinct (absurd hc)).count_eq entry
      have rest : clear ((of events).book ⟨.copyBuffer c source destination region, .done⟩).held c =
          clear (of events).held c := by
        funext b
        by_cases hb : b = c <;> simp [clear, book, hb]
      rw [rest] at grown
      simp only [book, if_true, List.count_append] at ih moved grown ⊢
      omega
    · rwa [idle.book]

/-- Copies are numbered in the order they are recorded. -/
theorem Ledger.numbers (events : List Event) :
    (of events).entries.map (·.number) = List.range (of events).entries.length := by
  induction events using List.reverseRecOn with
  | nil => rfl
  | append_singleton events event ih =>
    rw [of_snoc]
    obtain ⟨c, flags, rfl⟩ | ⟨queue, c, fence, rfl⟩ | ⟨c, source, destination, region, rfl⟩ | idle :=
      event.cases_ledger
    · exact ih
    · exact ih
    · simp [book, ih, List.range_succ]
    · rw [idle.book, ih]

/-- The entry of the copy that a trace records next. -/
def Ledger.next (ledger : Ledger) (copy : RecordedCopy) : Entry := ⟨ledger.entries.length, copy⟩

/-- The place of a copy of fate `fate` that was recorded into command buffer `b`. -/
def Ledger.place (ledger : Ledger) (b : Handle) : Fate → List Entry
  | .held => ledger.held b
  | .executed => ledger.executed
  | .discarded => ledger.discarded

/-- Booking an event moves an entry to where the next fate of its copy calls for. -/
theorem Ledger.mem_place_book {ledger : Ledger} {entry : Entry} {b : Handle} {fate : Fate}
    (h : entry ∈ ledger.place b fate) (event : Event) :
    entry ∈ (ledger.book event).place b (fate.step b event) := by
  obtain ⟨c, flags, rfl⟩ | ⟨queue, c, fence, rfl⟩ | ⟨c, source, destination, region, rfl⟩ | idle :=
    event.cases_ledger
  case inr.inr.inr => rwa [idle.book, idle.fate]
  case inr.inr.inl =>
    cases fate with
    | held => by_cases hc : b = c <;> simp_all [Fate.step, place, book]
    | executed | discarded => exact h
  -- A begin and a submission take along what their own command buffer holds, and leave the rest in place.
  all_goals
    cases fate with
    | held =>
      by_cases hc : c = b
      · simp_all [Fate.step, place, book]
      · simpa [Fate.step, place, book, hc, clear_of_ne, Ne.symm hc] using h
    | executed | discarded => simp_all [Fate.step, place, book]

/-- The ledger keeps every copy in the place that its fate calls for. -/
theorem Ledger.mem_place (before later : List Event) (b : Handle) (copy : RecordedCopy) :
    (of before).next copy ∈
      (of (before ++ ⟨.copyBuffer b copy.source copy.destination copy.region, .done⟩ :: later)).place b
        (fate b later) := by
  induction later using List.reverseRecOn with
  | nil => simp [place, fate, book, next]
  | append_singleton later event ih =>
    rw [← List.cons_append, ← List.append_assoc, of_snoc, fate_snoc]
    exact mem_place_book ih event

end CopyBench
