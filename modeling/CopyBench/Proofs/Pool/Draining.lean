import CopyBench.Proofs.Pool.Passage
/-!
# Draining a pool

Flushing all slots, waiting for each, hands over whatever they hold. Where no slot holds copies nothing
comes of that. Where one slot was left with a copy of which a buffer has been destroyed since, the copy
is handed over unless the device refuses again, and it breaks down.
-/

namespace CopyBench

open CopyBench.Action

variable {start : Machine} {events more more' : List Event} {s s' s₁ : Session}

/-- A copy to a buffer that is not bound breaks down. -/
theorem Machine.replay_unbound {m : Machine} {copy : RecordedCopy}
    (unbound : m.bindings.get? copy.destination = none) :
    replay [copy] m = (m, some .copyBetweenUnboundBuffers) := by
  have hcopied : m.copied copy = .error .copyBetweenUnboundBuffers := by
    unfold copied
    rw [unbound]
    cases m.bindings.get? copy.source <;> rfl
  rw [replay, hcopied]

namespace Session

/-- What draining leads to, when `stale` says whether it hands over a copy whose buffers are gone. -/
def Drains (start : Machine) (events : List Event) (stale : Prop) (m : Machine) : Prop :=
  ∃ more, Machine.Orderly start (events ++ more) m ∧ (Stale (events ++ more) ↔ Stale events ∨ stale) ∧
    (Crashed more ↔ stale)

theorem Drains.upkeep {stale : Prop} {m m' : Machine} (h : Drains start events stale m) {touched : List Handle}
    (upkeep : Machine.Upkeep m touched more m') : Drains start events stale m' := by
  obtain ⟨before, orderly, hstale, hcrashed⟩ := h
  refine ⟨before ++ more, List.append_assoc .. ▸ orderly.upkeep upkeep, ?_, ?_⟩
  · rw [← List.append_assoc, stale_append_plain upkeep.plain, hstale]
  · rw [crashed_append, hcrashed]
    exact or_iff_left (not_crashed_of_plain upkeep.plain)

/-! ## Slots that hold nothing -/

/-- A step of a session whose slots hold nothing, before and after. -/
structure Vacant (start : Machine) (events : List Event) (s : Session) (more : List Event) (s' : Session) :
    Prop where
  onward : Onward start events more s s'
  fresh : Stale (events ++ more) ↔ Stale events
  calm : ¬Crashed more
  spent : Spent start s'

theorem Vacant.drains (h : Vacant start events s more s') : Drains start events False s'.machine :=
  ⟨more, h.onward.orderly, by rw [h.fresh, or_false], iff_false_intro h.calm⟩

theorem Vacant.trans (h : Vacant start events s more s₁) (h' : Vacant start (events ++ more) s₁ more' s') :
    Vacant start events s (more ++ more') s' := by
  refine ⟨h.onward.trans h'.onward, ?_, ?_, h'.spent⟩
  · rw [← List.append_assoc, h'.fresh, h.fresh]
  · rw [crashed_append]
    exact not_or.2 ⟨h.calm, h'.calm⟩

theorem Spent.setState {m : Machine} (spent : Spent start s) {index : Nat} {state : SlotState}
    (work : ∀ b, m.work b = [] ∨ m.work b = s.machine.work b) : Spent start ⟨m, s.pool.setState index state⟩ := by
  have buffers := commandBuffers_setState s.pool index state
  refine ⟨fun b hb => ?_, fun b hb => ?_, spent.route⟩
  · exact spent.new b (buffers ▸ hb)
  · rcases work b with h | h
    · exact h
    · exact h.trans (spent.blank b (buffers ▸ hb))

theorem vacant_upkeep (orderly : Machine.Orderly start events s.machine) {m : Machine}
    (upkeep : Machine.Upkeep s.machine [] more m) {pool : CommandPool} (spent : Spent start ⟨m, pool⟩) :
    Vacant start events s more ⟨m, pool⟩ :=
  ⟨onward_upkeep orderly upkeep pool, stale_append_plain upkeep.plain events,
    not_crashed_of_plain upkeep.plain, spent⟩

/-- A flush of a slot that holds nothing. -/
theorem Flushed.vacant (spent : Spent start s) (onward : Onward start events more s s') {index : Nat} {slot : Slot}
    (hslot : s.pool.slots[index]? = some slot) {accepts : Prop} {r : Except Failure Unit}
    (orderly : Machine.Orderly start events s.machine) (flushed : Flushed s index slot accepts more r s') :
    Vacant start events s more s' := by
  have hmem : slot.commandBuffer ∈ s.pool.slots.map (·.commandBuffer) :=
    List.mem_map_of_mem (List.mem_of_getElem? hslot)
  have nothing := spent.blank _ hmem
  have alive : ¬∃ c ∈ holding events slot.commandBuffer,
      Destroyed events c.source ∨ Destroyed events c.destination := by
    rw [← orderly.work _ (spent.new _ hmem), nothing]
    simp
  have emptied (empties : s.Empties s' slot) (b : Handle) :
      s'.machine.work b = [] ∨ s'.machine.work b = s.machine.work b := by
    rw [empties b]
    split
    · exact .inl rfl
    · exact .inr rfl
  obtain ⟨m, pool⟩ := s'
  refine ⟨onward, flushed.stale_iff alive, ?_, ?_⟩
  · cases flushed with
    | refused refuses interrupts plain recorded waits pool => exact not_crashed_of_plain plain
    | broken accepted interrupts handed fails empties pool =>
      rw [nothing] at fails
      exact absurd rfl fails
    | unfinished accepted discreet handed works empties pool => rw [crashed_handedOver handed]; simp
    | finished accepted handed works empties pool => rw [crashed_handedOver handed]; simp
  · cases flushed with
    | refused refuses interrupts plain recorded waits pool =>
      subst pool
      refine spent.setState fun b => .inr ?_
      rw [Machine.work, recorded, Machine.work]
    | broken accepted interrupts handed fails empties pool =>
      subst pool
      exact spent.setState (emptied empties)
    | unfinished accepted discreet handed works empties pool =>
      subst pool
      exact spent.setState (emptied empties)
    | finished accepted handed works empties pool =>
      subst pool
      exact spent.setState (emptied empties)

/-- A waiting flush of a session whose slots hold nothing. -/
theorem ends_flush_spent (orderly : Machine.Orderly start events s.machine) (spent : Spent start s) (index : Nat) :
    (flush index true).Ends s fun _ s' => ∃ more, Vacant start events s more s' := by
  have kept {m : Machine} {more : List Event} (upkeep : Machine.Upkeep s.machine [] more m) :=
    vacant_upkeep orderly upkeep (spent.upkeep upkeep)
  cases hslot : s.pool.slots[index]? with
  | none =>
    rw [ends_flush, hslot]
    exact ⟨_, kept (.refl _)⟩
  | some slot =>
    by_cases waits : slot.state = .recording ∨ slot.state = .executable
    · obtain ⟨debugNames, route⟩ := spent.route
      refine (ends_flush_any orderly route hslot waits).mono fun r s' h => ?_
      obtain ⟨more, onward, flushed⟩ := h
      exact ⟨more, flushed.vacant spent onward hslot orderly⟩
    · rw [ends_flush, hslot]
      dsimp only
      cases hstate : slot.state with
      | recording => exact absurd (.inl hstate) waits
      | executable => exact absurd (.inr hstate) waits
      | idle => exact ⟨_, kept (Machine.upkeep_told _ _)⟩
      | pending =>
        dsimp only
        rw [if_pos rfl, ends_drain]
        cases s.machine.fault .queueWaitIdle with
        | some code => exact ⟨_, kept (Machine.upkeep_refuse _ _ (.queueWaitIdle s.pool.queue) code)⟩
        | none =>
          have upkeep : Machine.Upkeep s.machine [] [⟨.queueWaitIdle s.pool.queue, .done⟩]
              (s.machine.drained s.pool.queue) :=
            Machine.upkeep_event (plain_of_inert trivial) rfl rfl (Nat.le_refl _) rfl
          exact ⟨_, vacant_upkeep orderly upkeep (spent.setState fun b => .inr rfl)⟩

/-- Where no slot holds copies, draining hands over none. -/
theorem ends_flushFrom_spent (n : Nat) : ∀ (index : Nat) {events : List Event} {s : Session},
    Machine.Orderly start events s.machine → Spent start s →
      (flushFrom true index n).Ends s fun _ s' => ∃ more, Vacant start events s more s' := by
  induction n with
  | zero => exact fun index events s orderly spent => ⟨_, vacant_upkeep orderly (.refl _) spent⟩
  | succ n ih =>
    intro index events s orderly spent
    rw [ends_flushFrom_succ]
    refine (ends_flush_spent orderly spent index).mono fun r s₁ h => ?_
    obtain ⟨more, vacant⟩ := h
    rcases r with (e | p) | ⟨⟩
    · exact ⟨more, vacant⟩
    · exact ⟨more, vacant⟩
    · refine (ih (index + 1) vacant.onward.orderly vacant.spent).mono fun r s' h => ?_
      obtain ⟨more', vacant'⟩ := h
      exact ⟨_, vacant.trans vacant'⟩

/-! ## A slot with a copy that was left behind -/

/-- A waiting flush of the slot whose copy was left behind, and whose destination has been destroyed. -/
theorem ends_flush_left (orderly : Machine.Orderly start events s.machine) {index : Nat} {slot : Slot}
    {copy : RecordedCopy} (leaves : Leaves start s index slot copy) (gone : Destroyed events copy.destination) :
    (flush index true).Ends s fun r s' => (∃ e, r = .error (.error e)) ∧
      Drains start events (s.Retries slot) s'.machine := by
  have breaks : (Machine.replay (s.machine.work slot.commandBuffer) s.machine).2 ≠ none := by
    rw [leaves.work, Machine.replay_unbound (orderly.gone _ gone).1]
    simp
  have stale : ∃ c ∈ holding events slot.commandBuffer, Destroyed events c.source ∨ Destroyed events c.destination := by
    rw [← orderly.work _ leaves.new, leaves.work]
    exact ⟨copy, List.mem_singleton.2 rfl, .inr gone⟩
  obtain ⟨debugNames, route⟩ := leaves.route
  refine (ends_flush_any orderly route leaves.here leaves.waits).mono fun r s' h => ?_
  obtain ⟨more, onward, flushed⟩ := h
  cases flushed with
  | refused refuses interrupts plain recorded waits pool =>
    refine ⟨⟨_, rfl⟩, more, onward.orderly, ?_, ?_⟩
    · rw [stale_append_plain plain, or_iff_left refuses]
    · exact iff_of_false (not_crashed_of_plain plain) refuses
  | broken accepted interrupts handed fails empties pool =>
    refine ⟨⟨_, rfl⟩, more, onward.orderly, ?_, ?_⟩
    · rw [stale_handedOver handed (.inr rfl), iff_true_intro stale, iff_true_intro accepted]
    · rw [crashed_handedOver handed]
      exact iff_of_true rfl accepted
  | unfinished accepted discreet handed works empties pool => exact absurd works breaks
  | finished accepted handed works empties pool => exact absurd works breaks

/-- Draining comes to the slot whose copy was left behind, and no further. -/
theorem ends_flushFrom_left (n : Nat) : ∀ (first : Nat) {events : List Event} {s : Session} {index : Nat}
    {slot : Slot} {copy : RecordedCopy}, Machine.Orderly start events s.machine →
      Leaves start s index slot copy → Destroyed events copy.destination → first ≤ index → index < first + n →
        (flushFrom true first n).Ends s fun _ s' => Drains start events (s.Retries slot) s'.machine := by
  induction n with
  | zero =>
    intro first events s index slot copy _ _ _ hle hlt
    omega
  | succ n ih =>
    intro first events s index slot copy orderly leaves gone hle hlt
    rw [ends_flushFrom_succ]
    rcases Nat.eq_or_lt_of_le hle with rfl | hbefore
    · refine (ends_flush_left orderly leaves gone).mono fun r s' h => ?_
      obtain ⟨⟨e, rfl⟩, drains⟩ := h
      exact drains
    · -- The slots before it are idle, and flushing them is only logged.
      have hindex := (List.getElem?_eq_some_iff.1 leaves.here).1
      obtain ⟨other, hother⟩ : ∃ other, s.pool.slots[first]? = some other :=
        ⟨_, List.getElem?_eq_getElem (Nat.lt_trans hbefore hindex)⟩
      rw [ends_flush, hother]
      dsimp only
      rw [leaves.others _ _ hother (Nat.ne_of_lt hbefore)]
      have told (note : Note) : Machine.Upkeep s.machine [] [] (Console.tell note s.machine) :=
        Machine.upkeep_told _ _
      have orderly' (note : Note) : Machine.Orderly start events (Console.tell note s.machine) :=
        List.append_nil events ▸ orderly.upkeep (told note)
      exact ih (first + 1) (orderly' _) (leaves.upkeep (told _)) gone hbefore (by omega)

end Session

end CopyBench
