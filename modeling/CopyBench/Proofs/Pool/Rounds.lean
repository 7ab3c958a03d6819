import CopyBench.Proofs.Pool.Lifecycle
import CopyBench.Proofs.Pool.Transcript
/-!
# Rounds of flushes

A round flushes some neighbouring slots in order, up to the first that fails. Where a successful round
would leave the pool is a function of the pool, and no round changes it, failed or not. So rounds can be
repeated: together they submit the command buffers that waited at first, each of them once and in order.
-/

namespace CopyBench

open CopyBench.Action

namespace CommandPool

variable {p p' : CommandPool} {wait : Bool} {index k n j : Nat}

/-- The pool after `n` slots from `index` on were flushed with success. -/
def flushed (p : CommandPool) (wait : Bool) (index n : Nat) : CommandPool :=
  { p with slots := p.slots.mapIdx fun j slot =>
      if index ≤ j ∧ j < index + n then slot.flushed wait else slot }

/-- The command buffers of `n` slots from `index` on that may have copies waiting to be submitted. -/
def waiting (p : CommandPool) (index n : Nat) : List Handle :=
  ((p.slots.drop index).take n).flatMap Slot.waiting

/-- Whether a command buffer is that of one of `n` slots from `index` on. -/
def Covers (p : CommandPool) (index n : Nat) (b : Handle) : Prop :=
  ∃ j slot, index ≤ j ∧ j < index + n ∧ p.slots[j]? = some slot ∧ slot.commandBuffer = b

/-- Whether the pool has all of `n` slots from `index` on. -/
def Has (p : CommandPool) (index n : Nat) : Prop := ∀ j, index ≤ j → j < index + n → j < p.slots.length

theorem getElem?_flushed (p : CommandPool) (wait : Bool) (index n j : Nat) :
    (p.flushed wait index n).slots[j]? = p.slots[j]?.map fun slot =>
      if index ≤ j ∧ j < index + n then slot.flushed wait else slot :=
  List.getElem?_mapIdx

/-- Two pools that differ in their slots only are the same when their slots are. -/
theorem ext_slots (other : { p with slots := p'.slots } = p') (slots : ∀ j : Nat, p.slots[j]? = p'.slots[j]?) :
    p = p' := by
  rw [← other, ← List.ext_getElem? slots]

theorem flushed_comm (p : CommandPool) (wait : Bool) (i k j n : Nat) :
    (p.flushed wait i k).flushed wait j n = (p.flushed wait j n).flushed wait i k := by
  refine ext_slots rfl fun l => ?_
  simp only [getElem?_flushed, Option.map_map]
  congr 1
  funext slot
  simp only [Function.comp_apply]
  split <;> split <;> rfl

theorem flushed_append (p : CommandPool) (wait : Bool) (index k n : Nat) :
    (p.flushed wait index k).flushed wait (index + k) n = p.flushed wait index (k + n) := by
  refine ext_slots rfl fun l => ?_
  simp only [getElem?_flushed, Option.map_map]
  congr 1
  funext slot
  simp only [Function.comp_apply]
  split <;> split <;> split <;> first | rfl | omega

@[simp] theorem flushed_zero (p : CommandPool) (wait : Bool) (index : Nat) :
    p.flushed wait index 0 = p := by
  refine ext_slots rfl fun l => ?_
  have outside : ¬(index ≤ l ∧ l < index + 0) := by omega
  rw [getElem?_flushed]
  simp only [if_neg outside, Option.map_id']

/-- A slot is on its way to where a flush leaves it, whatever became of an earlier flush. -/
theorem flushed_setState {slot : Slot} {state : SlotState} (hslot : p.slots[index]? = some slot)
    (bound : state.flushed wait = slot.state.flushed wait) :
    (p.setState index state).flushed wait index 1 = p.flushed wait index 1 := by
  refine ext_slots rfl fun l => ?_
  rw [getElem?_flushed, getElem?_flushed, Session.slots_setState, List.getElem?_modify]
  by_cases hl : index = l
  · subst hl
    simp [hslot, Slot.flushed, bound]
  · simp [hl]

theorem flushed_one {slot : Slot} (hslot : p.slots[index]? = some slot) :
    p.flushed wait index 1 = p.setState index (slot.state.flushed wait) := by
  refine ext_slots rfl fun l => ?_
  rw [getElem?_flushed, Session.slots_setState, List.getElem?_modify]
  by_cases hl : index = l
  · subst hl
    simp [hslot, Slot.flushed]
  · have outside : ¬(index ≤ l ∧ l < index + 1) := by omega
    simp only [if_neg hl, if_neg outside, Option.map_id', Option.map_eq_map]

/-- Pools bound for the same state have the same slots outside. -/
theorem getElem?_of_flushed_eq (h : p'.flushed wait index n = p.flushed wait index n)
    (outside : ¬(index ≤ j ∧ j < index + n)) : p'.slots[j]? = p.slots[j]? := by
  have hj := congrArg (fun q : CommandPool => q.slots[j]?) h
  simpa [getElem?_flushed, outside] using hj

theorem length_of_flushed_eq (h : p'.flushed wait index n = p.flushed wait index n) :
    p'.slots.length = p.slots.length := by
  have hlength := congrArg (fun q : CommandPool => q.slots.length) h
  simpa [flushed] using hlength

/-- Pools bound for the same state have the same command buffers. -/
theorem commandBuffers_of_flushed_eq (h : p'.flushed wait index n = p.flushed wait index n) :
    p'.slots.map (·.commandBuffer) = p.slots.map (·.commandBuffer) := by
  have same (q : CommandPool) :
      (q.flushed wait index n).slots.map (·.commandBuffer) = q.slots.map (·.commandBuffer) := by
    refine List.ext_getElem? fun j => ?_
    rw [List.getElem?_map, List.getElem?_map, getElem?_flushed, Option.map_map]
    congr 1
    funext slot
    simp only [Function.comp_apply]
    split <;> rfl
  rw [← same p', h, same p]

theorem Covers.of_flushed_eq {b : Handle} (h : p'.flushed wait index n = p.flushed wait index n)
    (covers : p'.Covers index n b) : p.Covers index n b := by
  obtain ⟨j, slot, hle, hlt, hslot, rfl⟩ := covers
  have hj := congrArg (fun q : List Handle => q[j]?) (commandBuffers_of_flushed_eq h)
  simp only [List.getElem?_map, hslot, Option.map_some] at hj
  obtain ⟨slot', hslot', hb⟩ := Option.map_eq_some_iff.1 hj.symm
  exact ⟨j, slot', hle, hlt, hslot', hb⟩

theorem Covers.of_part {i n' : Nat} {b : Handle} (h : p.Covers i n' b) (first : index ≤ i)
    (last : i + n' ≤ index + n) : p.Covers index n b := by
  obtain ⟨j, slot, hle, hlt, hslot, hb⟩ := h
  exact ⟨j, slot, by omega, by omega, hslot, hb⟩

/-! ## What waits -/

theorem waiting_append (p : CommandPool) (index k n : Nat) :
    p.waiting index (k + n) = p.waiting index k ++ p.waiting (index + k) n := by
  rw [waiting, waiting, waiting, List.take_add, List.drop_drop, List.flatMap_append]

theorem waiting_congr (h : ∀ j, index ≤ j → j < index + n → p'.slots[j]? = p.slots[j]?) :
    p'.waiting index n = p.waiting index n := by
  unfold waiting
  congr 1
  refine List.ext_getElem? fun j => ?_
  rw [List.getElem?_take, List.getElem?_take]
  split
  · rw [List.getElem?_drop, List.getElem?_drop]
    exact h _ (by omega) (by omega)
  · rfl

theorem waiting_one {slot : Slot} (hslot : p.slots[index]? = some slot) :
    p.waiting index 1 = slot.waiting := by
  obtain ⟨hlt, rfl⟩ := List.getElem?_eq_some_iff.1 hslot
  rw [waiting, List.drop_eq_getElem_cons hlt, List.take_succ_cons, List.take_zero]
  simp

/-- Nothing waits in slots that were flushed. -/
theorem waiting_flushed (p : CommandPool) (wait : Bool) (index n : Nat) :
    (p.flushed wait index n).waiting index n = [] := by
  refine List.flatMap_eq_nil_iff.2 fun slot hmem => ?_
  obtain ⟨j, hj⟩ := List.getElem?_of_mem hmem
  rw [List.getElem?_take] at hj
  split at hj
  · rw [List.getElem?_drop, getElem?_flushed] at hj
    obtain ⟨slot', -, rfl⟩ := Option.map_eq_some_iff.1 hj
    rw [if_pos (by omega), Slot.waiting_flushed]
  · cases hj

theorem waiting_sublist (p : CommandPool) (index n : Nat) :
    (p.waiting index n).Sublist (p.slots.map (·.commandBuffer)) := by
  have each (slots : List Slot) : (slots.flatMap Slot.waiting).Sublist (slots.map (·.commandBuffer)) := by
    induction slots with
    | nil => exact .slnil
    | cons slot slots ih =>
      rw [List.flatMap_cons, List.map_cons, Slot.waiting]
      split
      · exact ih.cons_cons _
      · exact ih.cons _
  exact (each _).trans (((List.take_sublist ..).trans (List.drop_sublist ..)).map _)

end CommandPool

namespace Session

variable {s s₁ s₂ : Session} {wait : Bool} {index k n : Nat} {more more' : List Event}
  {r r' : Except Failure Unit}

/-- What comes of flushing `n` slots from `index` on, once or several times, when the last flush ended
in `r` and `more` are the events. -/
structure Round (wait : Bool) (index n : Nat) (s : Session) (more : List Event)
    (r : Except Failure Unit) (s' : Session) : Prop where
  bound : s'.pool.flushed wait index n = s.pool.flushed wait index n
  /-- What waited was submitted in order, or still waits. -/
  waiting : submitted more ++ s'.pool.waiting index n = s.pool.waiting index n
  machine : s.machine.Delivered more s'.machine
  delivers : ∀ event ∈ more,
    event.call.Delivers ∧ ∀ b ∈ event.call.commandBuffers, s.pool.Covers index n b
  reached : r = .ok () → s'.pool = s.pool.flushed wait index n
  has : r = .ok () → s.pool.Has index n
  works : s.machine.Reliable → s.pool.Has index n → r = .ok ()
  calm : ∀ p, r ≠ .error (.panic p)

namespace Round

theorem distinct (h : Round wait index n s more r s₁) (distinct : s.Distinct) : s₁.Distinct := by
  rw [Distinct, CommandPool.commandBuffers_of_flushed_eq h.bound]
  exact distinct

/-- A command buffer is submitted at most once, and what was submitted waits no more. -/
theorem nodup (h : Round wait index n s more r s₁) (distinct : s.Distinct) :
    (submitted more ++ s₁.pool.waiting index n).Nodup := by
  rw [h.waiting]
  exact (s.pool.waiting_sublist index n).nodup distinct

theorem waiting_eq_nil (h : Round wait index n s more (.ok ()) s₁) : s₁.pool.waiting index n = [] := by
  rw [h.reached rfl, CommandPool.waiting_flushed]

theorem submitted_eq (h : Round wait index n s more (.ok ()) s₁) :
    submitted more = s.pool.waiting index n := by
  rw [← h.waiting, h.waiting_eq_nil, List.append_nil]

/-- The flush of some slots goes on with those after them. -/
theorem append (h : Round wait index k s more (.ok ()) s₁) (distinct : s.Distinct)
    (h' : Round wait (index + k) n s₁ more' r s₂) : Round wait index (k + n) s (more ++ more') r s₂ := by
  have rest : s₁.pool.waiting (index + k) n = s.pool.waiting (index + k) n :=
    CommandPool.waiting_congr fun j hj _ => CommandPool.getElem?_of_flushed_eq h.bound (by omega)
  have first : s₂.pool.waiting index k = [] := by
    rw [← h.waiting_eq_nil]
    exact CommandPool.waiting_congr fun j _ hj => CommandPool.getElem?_of_flushed_eq h'.bound (by omega)
  have split := s.pool.waiting_append index k n
  have apart : (s.pool.waiting index k ++ s.pool.waiting (index + k) n).Nodup :=
    split ▸ (s.pool.waiting_sublist index (k + n)).nodup distinct
  have length := CommandPool.length_of_flushed_eq h.bound
  refine ⟨?_, ?_, ?_, ?_, ?_, ?_, ?_, h'.calm⟩
  · rw [← CommandPool.flushed_append, CommandPool.flushed_comm, h'.bound, CommandPool.flushed_comm,
      h.bound, CommandPool.flushed_append]
  · rw [CommandPool.waiting_append, first, List.nil_append, submitted_append, List.append_assoc,
      h'.waiting, rest, split, h.submitted_eq]
  · refine h.machine.trans h'.machine fun b hb hmem => ?_
    refine (List.nodup_append.1 apart).2.2 b ?_ b ?_ rfl
    · rwa [← h.submitted_eq]
    · rw [← rest, ← h'.waiting]
      exact List.mem_append_left _ hb
  · intro event hmem
    rcases List.mem_append.1 hmem with hmem | hmem
    · obtain ⟨delivers, own⟩ := h.delivers event hmem
      exact ⟨delivers, fun b hb => (own b hb).of_part (Nat.le_refl _) (by omega)⟩
    · obtain ⟨delivers, own⟩ := h'.delivers event hmem
      have bound : s₁.pool.flushed wait index (k + n) = s.pool.flushed wait index (k + n) := by
        rw [← CommandPool.flushed_append, h.bound, CommandPool.flushed_append]
      refine ⟨delivers, fun b hb => ?_⟩
      exact .of_flushed_eq bound ((own b hb).of_part (Nat.le_add_right ..) (by omega))
  · intro hr
    rw [h'.reached hr, h.reached rfl, CommandPool.flushed_append]
  · intro hr j hle hlt
    by_cases hj : j < index + k
    · exact h.has rfl j hle hj
    · exact length ▸ h'.has hr j (by omega) (by omega)
  · intro reliable has
    exact h'.works (reliable.of_same h.machine.setting) fun j hle hlt =>
      length ▸ has j (by omega) (by omega)

/-- Where the flush of some slots fails, those after them are left alone. -/
theorem stop {f : Failure} (h : Round wait index k s more (.error f) s₁) (n : Nat) (e : Error) :
    Round wait index (k + n) s more (.error (.error e)) s₁ := by
  refine ⟨?_, ?_, h.machine, fun event hmem => ?_, nofun, nofun, fun reliable has => ?_, nofun⟩
  · rw [← CommandPool.flushed_append, h.bound, CommandPool.flushed_append]
  · have rest : s₁.pool.waiting (index + k) n = s.pool.waiting (index + k) n :=
      CommandPool.waiting_congr fun j hj _ => CommandPool.getElem?_of_flushed_eq h.bound (by omega)
    rw [CommandPool.waiting_append, ← List.append_assoc, h.waiting, rest, ← CommandPool.waiting_append]
  · obtain ⟨delivers, own⟩ := h.delivers event hmem
    exact ⟨delivers, fun b hb => (own b hb).of_part (Nat.le_refl _) (by omega)⟩
  · exact nomatch h.works reliable fun j hle hlt => has j hle (by omega)

/-- The same slots are flushed again. -/
theorem again (h : Round wait index n s more r s₁) (distinct : s.Distinct)
    (h' : Round wait index n s₁ more' r' s₂) : Round wait index n s (more ++ more') r' s₂ := by
  have length := CommandPool.length_of_flushed_eq h.bound
  refine ⟨h'.bound.trans h.bound, ?_, ?_, ?_, fun hr => ?_, fun hr j hle hlt => ?_,
    fun reliable has => ?_, h'.calm⟩
  · rw [submitted_append, List.append_assoc, h'.waiting, h.waiting]
  · refine h.machine.trans h'.machine fun b hb hmem => ?_
    refine (List.nodup_append.1 (h.nodup distinct)).2.2 b hmem b ?_ rfl
    rw [← h'.waiting]
    exact List.mem_append_left _ hb
  · intro event hmem
    rcases List.mem_append.1 hmem with hmem | hmem
    · exact h.delivers event hmem
    · obtain ⟨delivers, own⟩ := h'.delivers event hmem
      exact ⟨delivers, fun b hb => (own b hb).of_flushed_eq h.bound⟩
  · rw [h'.reached hr, h.bound]
  · exact length ▸ h'.has hr j hle hlt
  · exact h'.works (reliable.of_same h.machine.setting) fun j hle hlt => length ▸ has j hle hlt

end Round

theorem since_of_trace_eq (h : s₁.machine.trace.toList = s.machine.trace.toList ++ more) :
    since s s₁ = more := by
  rw [since, h, ← Array.length_toList, List.drop_left]

theorem Walk.sound {α : Type} {r : Except Failure α} (walk : Walk s [] r s₁) (sound : s.Sound) :
    s₁.Sound := by
  obtain ⟨more, path, -⟩ := walk.onward
  exact path.sound sound

theorem sound_flush (sound : s.Sound) (index : Nat) (wait : Bool) :
    (flush index wait).Ends s fun _ s' => s'.Sound :=
  (walk_flush .start sound index wait).mono fun _ _ h => h.1.sound sound

theorem sound_flushFrom (sound : s.Sound) (wait : Bool) (index n : Nat) :
    (flushFrom wait index n).Ends s fun _ s' => s'.Sound :=
  (walk_flushFrom .start sound wait index n).mono fun _ _ h => h.1.sound sound

/-- The flush of a slot that the pool does not have. -/
theorem round_missing (hslot : s.pool.slots[index]? = none) (e : Error) :
    Round wait index 1 s [] (.error (.error e)) s where
  bound := rfl
  waiting := rfl
  machine := .refl s.machine
  delivers := fun _ hmem => absurd hmem List.not_mem_nil
  reached := nofun
  has := nofun
  works := fun _ has => absurd (has index (Nat.le_refl _) (Nat.lt_succ_self _))
    (Nat.not_lt.2 (List.getElem?_eq_none_iff.1 hslot))
  calm := nofun

/-- The flush of a slot is a round over that slot. -/
theorem round_of_transcript {slot : Slot} {state : SlotState} (hslot : s.pool.slots[index]? = some slot)
    (transcript : Transcript s.pool.queue slot.commandBuffer wait slot.state more r state)
    (advance : Advance s index state more r s₁) : Round wait index 1 s more r s₁ := by
  have hlt := (List.getElem?_eq_some_iff.1 hslot).1
  refine ⟨?_, ?_, advance.machine, fun event hmem => ?_, fun hr => ?_, fun _ j hle hj => ?_,
    fun reliable _ => advance.works reliable, transcript.calm⟩
  · rw [advance.pool, CommandPool.flushed_setState hslot transcript.bound]
  · rw [advance.pool, CommandPool.waiting_one (slot_setState state hslot),
      CommandPool.waiting_one hslot]
    exact transcript.waiting
  · obtain ⟨delivers, own⟩ := transcript.delivers event hmem
    refine ⟨delivers, fun b hb => ⟨index, slot, Nat.le_refl _, Nat.lt_succ_self _, hslot, ?_⟩⟩
    exact (List.mem_singleton.1 (own hb)).symm
  · subst hr
    rw [advance.pool, transcript.reached, CommandPool.flushed_one hslot]
  · omega

theorem ends_flush_round (sound : s.Sound) (index : Nat) (wait : Bool) :
    (flush index wait).Ends s fun r s' => ∃ more, Round wait index 1 s more r s' := by
  cases hslot : s.pool.slots[index]? with
  | none =>
    rw [ends_flush, hslot]
    exact ⟨[], round_missing hslot _⟩
  | some slot =>
    refine (ends_flush_transcript hslot (sound index slot hslot) wait).mono fun r s' h => ?_
    obtain ⟨more, state, transcript, advance⟩ := h
    exact ⟨more, round_of_transcript hslot transcript advance⟩

/-- One round of flushes. -/
theorem ends_flushFrom_round (sound : s.Sound) (distinct : s.Distinct) (wait : Bool) (index n : Nat) :
    (flushFrom wait index n).Ends s fun r s' => ∃ more, Round wait index n s more r s' := by
  induction n generalizing index s with
  | zero =>
    refine ⟨[], rfl, rfl, .refl _, nofun, fun _ => ?_, fun _ j hle hlt => ?_, fun _ _ => rfl, nofun⟩
    · rw [CommandPool.flushed_zero]
    · exact absurd hlt (Nat.not_lt.2 hle)
  | succ n ih =>
    rw [ends_flushFrom_succ, Nat.add_comm n 1]
    refine ((ends_flush_round sound index wait).and (sound_flush sound index wait)).mono fun r s' h => ?_
    obtain ⟨⟨more, round⟩, sound⟩ := h
    rcases r with (e | p) | ⟨⟩
    · exact ⟨more, round.stop n _⟩
    · exact absurd rfl (round.calm p)
    · refine (ih sound (round.distinct distinct) (index + 1)).mono fun r s'' h => ?_
      obtain ⟨more', round'⟩ := h
      exact ⟨_, round.append distinct round'⟩

theorem ends_flushAll_round (sound : s.Sound) (distinct : s.Distinct) (wait : Bool) :
    (flushAll wait).Ends s fun r s' => ∃ more, Round wait 0 s.pool.slots.length s more r s' := by
  rw [flushAll, ends_bind, ends_getPool]
  exact ends_flushFrom_round sound distinct wait 0 s.pool.slots.length

end Session

end CopyBench
