import CopyBench.Proofs.Trace.Ledger
import CopyBench.Proofs.Trace.Stale
import Mathlib.Data.List.Dedup
/-!
# Copies that are taken at most once

A submission that breaks down takes the copies of its command buffer like one that is accepted. In the
ledger that books both alike, a copy that was recorded is executed once, when its fate is to be executed,
and otherwise not at all.
-/

namespace CopyBench

/-- The event as it is booked: a submission that reaches the machine takes its copies, even when it breaks
down there. -/
def Event.booked (event : Event) : Event :=
  match event.call, event.reply with
  | .queueSubmit queue b fence, .crashed => ⟨.queueSubmit queue b fence, .done⟩
  | _, _ => event

/-- The ledger of a trace in which every submission that reached the machine took its copies. -/
def Ledger.taken (events : List Event) : Ledger := of (events.map Event.booked)

/-- What is left of the fate of a copy in a command buffer by the events after it was recorded. -/
def takenFate (b : Handle) (later : List Event) : Fate := fate b (later.map Event.booked)

theorem Ledger.taken_snoc (events : List Event) (event : Event) :
    taken (events ++ [event]) = (taken events).book event.booked := by
  rw [taken, List.map_append, List.map_cons, List.map_nil, of_snoc, taken]

/-- What a command buffer holds after it was emptied, or another was. -/
theorem Ledger.map_clear (ledger : Ledger) (b b' : Handle) :
    (clear ledger.held b' b).map (·.copy) = if b' = b then [] else (ledger.held b).map (·.copy) := by
  by_cases h : b' = b
  · simp [h]
  · simp [h, clear_of_ne, Ne.symm h]

/-- The ledger holds what the command buffers hold. -/
theorem Ledger.held_taken (events : List Event) (b : Handle) :
    ((taken events).held b).map (·.copy) = holding events b := by
  induction events using List.reverseRecOn with
  | nil => rfl
  | append_singleton events event ih =>
    rw [taken_snoc, holding_snoc, ← ih]
    generalize taken events = ledger
    rcases event with ⟨call, reply⟩
    cases call with
    -- Only a begin, a submission and a copy change what is held.
    | beginCommandBuffer b' flags => cases reply <;> first | rfl | exact map_clear ledger b b'
    | queueSubmit queue b' fence => cases reply <;> first | rfl | exact map_clear ledger b b'
    | copyBuffer b' source destination region =>
      cases reply with
      | done =>
        by_cases h : b' = b
        · simp [Event.booked, book, holdingNext, h]
        · simp [Event.booked, book, holdingNext, h, Ne.symm h]
      | _ => rfl
    | _ => cases reply <;> rfl

/-- How many copies an event executes where the command buffers hold `held`. -/
def Event.executes (event : Event) (held : Handle → List RecordedCopy) : Nat :=
  match event.call, event.reply with
  | .queueSubmit _ b _, .done => (held b).length
  | _, _ => 0

/-- A submission that is accepted executes what its command buffer holds. -/
theorem Ledger.executed_taken (events : List Event) {event : Event} (calm : event.reply ≠ .crashed) :
    (taken (events ++ [event])).executed.length =
      (taken events).executed.length + event.executes (holding events) := by
  have held := held_taken events
  rw [taken_snoc]
  generalize taken events = ledger at held ⊢
  rcases event with ⟨call, reply⟩
  cases call with
  | queueSubmit queue b fence =>
    cases reply with
    | crashed => exact absurd rfl calm
    | done =>
      change (ledger.executed ++ ledger.held b).length = _ + (holding events b).length
      rw [← held, List.length_append, List.length_map]
    | _ => rfl
  | _ => cases reply <;> rfl

/-- The command buffers that copies are recorded into. -/
def recordedInto (events : List Event) : List Handle :=
  (events.filterMap fun event => match event.call, event.reply with
    | .copyBuffer b _ _ _, .done => some b
    | _, _ => none).dedup

theorem recordsInto_recordedInto (events : List Event) : RecordsInto (recordedInto events) events := by
  intro b source destination region hmem
  exact List.mem_dedup.2 (List.mem_filterMap.2 ⟨_, hmem, rfl⟩)

/-- No copy is in two places, or in one place twice. -/
theorem Ledger.nodup_places (events : List Event) :
    (heldIn (of events).held (recordedInto events) ++ (of events).executed ++ (of events).discarded).Nodup := by
  refine (perm_entries (List.nodup_dedup _) (recordsInto_recordedInto events)).nodup_iff.2 ?_
  refine List.Nodup.of_map (·.number) ?_
  rw [numbers]
  exact List.nodup_range

/-- A copy is executed once when its fate is to be executed, and otherwise not at all. -/
theorem Ledger.count_executed (before later : List Event) (b : Handle) (copy : RecordedCopy) :
    (of (before ++ ⟨.copyBuffer b copy.source copy.destination copy.region, .done⟩ :: later)).executed.count
      ((of before).next copy) = if fate b later = .executed then 1 else 0 := by
  have place := mem_place before later b copy
  have nodup := nodup_places (before ++ ⟨.copyBuffer b copy.source copy.destination copy.region, .done⟩ :: later)
  have into : b ∈ recordedInto (before ++ ⟨.copyBuffer b copy.source copy.destination copy.region, .done⟩ :: later) :=
    recordsInto_recordedInto _ b _ _ _ (List.mem_append_right _ List.mem_cons_self)
  generalize recordedInto _ = bs at nodup into
  generalize of (before ++ _) = ledger at place nodup ⊢
  obtain ⟨first, -, apart'⟩ := List.nodup_append.1 nodup
  obtain ⟨-, executed, apart⟩ := List.nodup_append.1 first
  -- The entry is where its fate says, and no entry is in two places.
  cases hfate : fate b later with
  | executed =>
    rw [hfate] at place
    rw [if_pos rfl]
    exact List.count_eq_one_of_mem executed place
  | held =>
    rw [hfate] at place
    rw [if_neg (by simp)]
    refine List.count_eq_zero.2 fun hmem => apart _ (List.mem_flatMap.2 ⟨b, into, place⟩) _ hmem rfl
  | discarded =>
    rw [hfate] at place
    rw [if_neg (by simp)]
    exact List.count_eq_zero.2 fun hmem => apart' _ (List.mem_append_right _ hmem) _ place rfl

/-! ## What decides -/

/-- A begin that succeeds. -/
def Event.Begins (event : Event) (commandBuffer : Handle) : Prop :=
  ∃ flags, event = ⟨.beginCommandBuffer commandBuffer flags, .done⟩

/-- What becomes of a copy in a command buffer by the events after it was recorded. It is held as long as they
spare the command buffer, and then the first one that hands it over or begins it decides. -/
inductive Lot (b : Handle) : Fate → List Event → Prop where
  | held {more : List Event} (spared : ∀ event ∈ more, event.Spares b) : Lot b .held more
  | executed {before : List Event} {event : Event} (spared : ∀ event ∈ before, event.Spares b)
      (hands : event.HandsOver b) (after : List Event) : Lot b .executed (before ++ event :: after)
  | discarded {before : List Event} {event : Event} (spared : ∀ event ∈ before, event.Spares b)
      (begins : event.Begins b) (after : List Event) : Lot b .discarded (before ++ event :: after)

section Lot

variable {b : Handle} {event : Event} {more later : List Event} {settled : Fate}

theorem Event.Spares.not_handsOver (spares : event.Spares b) : ¬event.HandsOver b := by
  rcases event with ⟨call, reply⟩
  rintro ⟨queue, fence, rfl, rfl | rfl⟩ <;> simpa [holdingNext] using spares [⟨0, 0, ⟨0, 0, 0⟩⟩]

theorem Event.Spares.not_begins (spares : event.Spares b) : ¬event.Begins b := by
  rintro ⟨flags, rfl⟩
  simpa [holdingNext] using spares [⟨0, 0, ⟨0, 0, 0⟩⟩]

theorem Lot.exists_handsOver (lot : Lot b .executed more) : ∃ event ∈ more, event.HandsOver b := by
  cases lot with
  | executed spared hands => exact ⟨_, List.mem_append_right _ List.mem_cons_self, hands⟩

/-- Events that spare the command buffer come before whatever decides. -/
theorem Lot.after_spared (lot : Lot b settled later) (spared : ∀ event ∈ more, event.Spares b) :
    Lot b settled (more ++ later) := by
  cases lot with
  | held spared' => exact .held (List.forall_mem_append.2 ⟨spared, spared'⟩)
  | executed spared' hands after =>
    rw [← List.append_assoc]
    exact .executed (List.forall_mem_append.2 ⟨spared, spared'⟩) hands after
  | discarded spared' begins after =>
    rw [← List.append_assoc]
    exact .discarded (List.forall_mem_append.2 ⟨spared, spared'⟩) begins after

/-- What has been decided stays so. -/
theorem Lot.append (lot : Lot b settled later) (decided : settled ≠ .held) (more : List Event) :
    Lot b settled (later ++ more) := by
  cases lot with
  | held => exact absurd rfl decided
  | executed spared hands after =>
    rw [List.append_assoc, List.cons_append]
    exact .executed spared hands _
  | discarded spared begins after =>
    rw [List.append_assoc, List.cons_append]
    exact .discarded spared begins _

/-- What is executed or discarded stays so. -/
theorem foldl_fate_of_ne_held (b : Handle) (later : List Event) (h : settled ≠ .held) :
    later.foldl (Fate.step b) settled = settled := by
  induction later with
  | nil => rfl
  | cons event later ih =>
    have stays : settled.step b event = settled := by
      cases settled with
      | held => exact absurd rfl h
      | executed | discarded => rfl
    rw [List.foldl_cons, stays, ih]

theorem step_booked_of_handsOver (hands : event.HandsOver b) : Fate.step b .held event.booked = .executed := by
  rcases event with ⟨call, reply⟩
  obtain ⟨queue, fence, rfl, rfl | rfl⟩ := hands <;> exact if_pos rfl

theorem step_booked_of_begins (begins : event.Begins b) : Fate.step b .held event.booked = .discarded := by
  obtain ⟨flags, rfl⟩ := begins
  exact if_pos rfl

theorem step_booked_of_spares (spares : event.Spares b) : Fate.step b .held event.booked = .held := by
  have hands := spares.not_handsOver
  have begins := spares.not_begins
  rcases event with ⟨call, reply⟩
  cases call with
  | queueSubmit queue b' fence =>
    have apart (h : reply = .done ∨ reply = .crashed) : b' ≠ b := by
      rintro rfl
      exact hands ⟨queue, fence, rfl, h⟩
    cases reply with
    | done => exact if_neg (apart (.inl rfl))
    | crashed => exact if_neg (apart (.inr rfl))
    | _ => rfl
  | beginCommandBuffer b' flags =>
    cases reply with
    | done =>
      refine if_neg ?_
      rintro rfl
      exact begins ⟨flags, rfl⟩
    | _ => rfl
  | _ => cases reply <;> rfl

theorem takenFate_cons (event : Event) (later : List Event) : takenFate b (event :: later) =
    (later.map Event.booked).foldl (Fate.step b) (Fate.step b .held event.booked) := rfl

theorem takenFate_append_spared (spared : ∀ event ∈ more, event.Spares b) (later : List Event) :
    takenFate b (more ++ later) = takenFate b later := by
  induction more with
  | nil => rfl
  | cons event more ih =>
    rw [List.cons_append, takenFate_cons, step_booked_of_spares (spared event List.mem_cons_self)]
    exact ih fun e mem => spared e (List.mem_cons_of_mem _ mem)

/-- The ledger sees to it that a copy has its lot. -/
theorem Lot.takenFate_eq (lot : Lot b settled later) : takenFate b later = settled := by
  cases lot with
  | held spared =>
    rw [← List.append_nil later, takenFate_append_spared spared]
    rfl
  | executed spared hands after =>
    rw [takenFate_append_spared spared, takenFate_cons, step_booked_of_handsOver hands]
    exact foldl_fate_of_ne_held _ _ (by simp)
  | discarded spared begins after =>
    rw [takenFate_append_spared spared, takenFate_cons, step_booked_of_begins begins]
    exact foldl_fate_of_ne_held _ _ (by simp)

end Lot

/-- A copy is executed once when that is its lot, and otherwise not at all. -/
theorem Ledger.count_taken {b : Handle} {settled : Fate} {later : List Event} (lot : Lot b settled later)
    (before : List Event) (copy : RecordedCopy) :
    (taken (before ++ ⟨.copyBuffer b copy.source copy.destination copy.region, .done⟩ :: later)).executed.count
      ((taken before).next copy) = if settled = .executed then 1 else 0 := by
  have booked : taken (before ++ ⟨.copyBuffer b copy.source copy.destination copy.region, .done⟩ :: later) =
      of (before.map Event.booked ++
        ⟨.copyBuffer b copy.source copy.destination copy.region, .done⟩ :: later.map Event.booked) := by
    rw [taken, List.map_append, List.map_cons]
    rfl
  rw [booked, taken, count_executed, ← lot.takenFate_eq, takenFate]

end CopyBench
