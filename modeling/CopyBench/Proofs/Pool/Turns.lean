import CopyBench.Proofs.Pool.Acquiring
import CopyBench.Proofs.Pool.Ring
/-!
# Whose turn it is

Among any requests to a pool and any failures, the acquires go round the ring: the next one is for the slot
whose index is their number modulo the depth. Each acquire that finds its slot open and flushes it is
counted by the pool. So many acquires of a new pool flush as often as they exceed its depth.
-/

namespace CopyBench

open CopyBench.Action

namespace Session

variable {s s' start : Session} {slot : Slot} {index : Nat}

/-! ## An acquire of a slot -/

/-- What an acquire that succeeds does to its slot. -/
structure Reopened (s : Session) (index : Nat) (slot : Slot) (s' : Session) : Prop where
  opened : s'.pool.slots[index]? = some { slot with state := .recording }
  empty : s'.machine.work slot.commandBuffer = []
  /-- The begin comes last. Before it an open slot is ended, submitted with a fence and waited for, and a
  pending one is waited for by draining the queue. -/
  calls : ∃ before, Reopens s.pool.queue slot.commandBuffer slot.state before ∧
    since s s' = before ++ [⟨.beginCommandBuffer slot.commandBuffer simultaneousUse, .done⟩]
  /-- The copies that an open slot had recorded are executed, and no others. -/
  executed : ∃ m, Machine.SameMemory m s'.machine ∧ (m, none) =
    Machine.replay (if slot.state = .recording then s.machine.work slot.commandBuffer else []) s.machine

/-- What an acquire does for slot `index`, whether it succeeds or not. -/
structure Serves (s : Session) (index : Nat) (slot : Slot) (r : Except Failure (Nat × Handle))
    (s' : Session) : Prop where
  others : ∀ j, j ≠ index → s'.pool.slots[j]? = s.pool.slots[j]?
  commandBuffers : s'.commandBuffers = s.commandBuffers
  /-- No call is made for the command buffer of another slot. -/
  own : ∀ event ∈ since s s', event.call.commandBuffers ⊆ [slot.commandBuffer]
  /-- What is given is the index of the slot with its command buffer. -/
  given : ∀ a, r = .ok a → a = (index, slot.commandBuffer) ∧ Reopened s index slot s'

theorem getElem?_acquired (s : Session) (state : SlotState) {j : Nat} (other : j ≠ s.pool.cursor) :
    (s.acquired state).slots[j]? = s.pool.slots[j]? := by
  change (s.pool.slots.modify _ _)[j]? = _
  rw [List.getElem?_modify]
  simp only [if_neg (Ne.symm other), Option.map_eq_map, Option.map_id']

theorem commandBuffers_acquired (s : Session) (state : SlotState) :
    (s.acquired state).slots.map (·.commandBuffer) = s.commandBuffers :=
  commandBuffers_setState s.pool s.pool.cursor state

/-- The calls before a begin submit what was open. -/
theorem Reopens.submitted {queue b : Handle} {state : SlotState} {more : List Event}
    (h : Reopens queue b state more) : submitted more = if state = .recording then [b] else [] := by
  cases h with
  | rested h => rcases h with rfl | rfl <;> rfl
  | drained | flushed => rfl

/-- An acquire serves the slot at the cursor. -/
theorem ends_acquire_serves (hslot : s.pool.slots[s.pool.cursor]? = some slot) (sound : s.Sound) :
    acquire.Ends s (Serves s s.pool.cursor slot) := by
  refine (ends_acquire_opens hslot sound).mono fun r s' h => ?_
  obtain ⟨-, -, state, -, opens⟩ := h
  cases opens with
  | failed calls call code =>
    refine ⟨fun j => getElem?_acquired s state, commandBuffers_acquired s state, ?_, nofun⟩
    rw [since_of_trace_eq calls.delivered.trace]
    exact calls.own
  | @opened more m calls reopens =>
    have since_eq : since s ⟨m.began slot.commandBuffer simultaneousUse, s.acquired .recording⟩ =
        more ++ [⟨.beginCommandBuffer slot.commandBuffer simultaneousUse, .done⟩] := by
      refine since_of_trace_eq ?_
      rw [← List.append_assoc, ← calls.delivered.trace]
      exact Array.toList_push
    refine ⟨fun j => getElem?_acquired s .recording, commandBuffers_acquired s .recording, ?_, ?_⟩
    · rw [since_eq]
      intro event hmem
      rcases List.mem_append.1 hmem with hmem | hmem
      · exact calls.own event hmem
      · rw [List.mem_singleton.1 hmem]
        exact List.Subset.refl _
    · rintro a ⟨⟩
      refine ⟨rfl, slot_setState .recording hslot, ?_, ⟨more, reopens, since_eq⟩, ?_⟩
      · rw [Machine.work_began, if_pos rfl]
      · obtain ⟨n, replayed, same⟩ := calls.delivered.bytes
        refine ⟨n, ⟨same.bindings, same.memories⟩, ?_⟩
        rw [reopens.submitted] at replayed
        rw [← replayed]
        split <;> simp

/-! ## The count of acquires -/

/-- Requests to a pool, and copies recorded between them. There were `k` acquires, and `n` of them found
their slot open and flushed it. -/
inductive History (start : Session) : Nat → Nat → Session → Prop where
  | start : History start 0 0 start
  | acquire {k n s} (history : History start k n s) :
    History start (k + 1) (n + if s.reflushes then 1 else 0) (acquire.finalState s)
  | perform {k n s} (operation : PoolOperation) (other : operation ≠ .acquire)
      (history : History start k n s) : History start k n ((perform operation).finalState s)
  | record {k n s} {index : Nat} {slot : Slot} (copy : RecordedCopy) (history : History start k n s)
      (hslot : s.pool.slots[index]? = some slot) (isOpen : slot.state = .recording)
      (sound : s.machine.CanCopy copy) :
    History start k n ((onMachine (Machine.copyBuffer slot.commandBuffer copy.source copy.destination
      copy.region)).finalState s)

/-- Where the ring of a pool stands after `k` acquires of which `n` flushed. -/
structure Stands (depth k n : Nat) (p : CommandPool) : Prop where
  length : p.slots.length = depth
  cursor : p.cursor = k % depth
  autoFlushes : p.autoFlushes = n

theorem stable_stands (depth k n : Nat) : CommandPool.Stable (Stands depth k n) := fun p index state h =>
  ⟨by rw [slots_setState, List.length_modify, h.length], h.cursor, h.autoFlushes⟩

theorem Stands.exists_slot {depth k n : Nat} (h : Stands depth k n s.pool) (positive : depth ≠ 0) :
    ∃ slot, s.pool.slots[s.pool.cursor]? = some slot := by
  have hlt : s.pool.cursor < s.pool.slots.length := by
    rw [h.length, h.cursor]
    exact Nat.mod_lt _ (Nat.pos_of_ne_zero positive)
  exact ⟨_, List.getElem?_eq_getElem hlt⟩

/-- Whatever an acquire leaves its slot in, the ring moves on by one. -/
theorem Stands.acquired {depth k n : Nat} (h : Stands depth k n s.pool) (state : SlotState) :
    Stands depth (k + 1) (n + if s.reflushes then 1 else 0) (s.acquired state) := by
  refine ⟨?_, ?_, ?_⟩
  · exact (stable_stands depth k n s.pool s.pool.cursor state h).length
  · change (s.pool.cursor + 1) % s.pool.slots.length = _
    rw [h.length, h.cursor, Nat.mod_add_mod]
  · change s.pool.autoFlushes + _ = _
    rw [h.autoFlushes]

theorem Opens.exists_acquired {slot : Slot} {flags : UInt32} {state : SlotState} {a : Nat × Handle}
    {r : Except Failure (Nat × Handle)}
    (h : Opens s slot flags (s.acquired state) (s.acquired .recording) a r s') :
    ∃ state, s'.pool = s.acquired state := by
  cases h with
  | failed => exact ⟨_, rfl⟩
  | opened => exact ⟨_, rfl⟩

theorem History.reach {k n : Nat} (history : History start k n s) : Reach start s := by
  induction history with
  | start => exact .start
  | @acquire _ _ s history ih =>
    have same : (Session.perform .acquire).finalState s = Session.acquire.finalState s :=
      finalState_bind_pure Session.acquire _ s
    exact same ▸ .perform .acquire ih
  | perform operation other history ih => exact .perform operation ih
  | record copy history hslot isOpen sound ih => exact .record copy ih hslot isOpen sound

theorem History.sound {k n : Nat} (history : History start k n s) (sound : start.Sound) : s.Sound := by
  obtain ⟨events, path⟩ := history.reach.path sound
  exact path.sound sound

theorem History.stands {depth k n : Nat} (history : History start k n s) (sound : start.Sound)
    (positive : depth ≠ 0) (stands : Stands depth 0 0 start.pool) : Stands depth k n s.pool := by
  induction history with
  | start => exact stands
  | acquire history ih =>
    obtain ⟨slot, hslot⟩ := ih.exists_slot positive
    refine ends_finalState (Q := fun s' => Stands depth _ _ s'.pool).1
      ((ends_acquire_opens hslot (history.sound sound)).mono fun r s' h => ?_)
    obtain ⟨-, -, state, -, opens⟩ := h
    obtain ⟨state, hpool⟩ := opens.exists_acquired
    rw [hpool]
    exact ih.acquired state
  | @perform k n s operation other history ih =>
    exact ends_finalState.1 (stays_perform (stable_stands depth k n) other s ih)
  | record copy history hslot isOpen sound ih => exact ih

/-! ## Acquires in a row -/

/-- `m` acquires in a row that all succeed. -/
inductive Row (start : Session) : Nat → Session → Prop where
  | start : Row start 0 start
  | next {m s a s'} (row : Row start m s) (run : acquire s = .ok a s') : Row start (m + 1) s'

/-- What `k` acquires that all succeeded have come to: the slots are open as far as the acquires went, and
every acquire beyond the depth has flushed the slot that it found open. -/
structure Rowed (start : Session) (depth k : Nat) (s : Session) : Prop where
  history : History start k (k - depth) s
  states : ∀ j slot, s.pool.slots[j]? = some slot → slot.state = if j < k then .recording else .idle
  fencedSubmits : s.machine.counters.fencedSubmits = start.machine.counters.fencedSubmits + (k - depth)
  setting : start.machine.SameSetting s.machine

theorem Reopens.countP_fenced {queue b : Handle} {state : SlotState} {more : List Event}
    (h : Reopens queue b state more) :
    more.countP Event.fenced = if state = .recording then 1 else 0 := by
  cases h with
  | rested h => rcases h with rfl | rfl <;> rfl
  | drained | flushed => rfl

/-- The slot at the cursor is open once the acquires have gone round the ring. -/
theorem Rowed.state_eq {depth k : Nat} (h : Rowed start depth k s) (stands : Stands depth k (k - depth) s.pool)
    (positive : depth ≠ 0) (hslot : s.pool.slots[s.pool.cursor]? = some slot) :
    slot.state = .recording ↔ depth ≤ k := by
  have small : k % depth < depth := Nat.mod_lt _ (Nat.pos_of_ne_zero positive)
  rw [h.states _ slot hslot, stands.cursor]
  by_cases hk : depth ≤ k
  · simp [hk, show k % depth < k by omega]
  · simp [hk, Nat.mod_eq_of_lt (Nat.lt_of_not_le hk)]

theorem Rowed.next {depth k : Nat} {a : Nat × Handle} (h : Rowed start depth k s) (sound : start.Sound)
    (positive : depth ≠ 0) (fresh : Stands depth 0 0 start.pool) (run : acquire s = .ok a s') :
    Rowed start depth (k + 1) s' := by
  have stands := h.history.stands sound positive fresh
  have sound := h.history.sound sound
  obtain ⟨slot, hslot⟩ := stands.exists_slot positive
  have opened := h.state_eq stands positive hslot
  obtain ⟨-, found, state, -, opens⟩ := (ends_of_ok run).1 (ends_acquire_opens hslot sound)
  have flushes := found a rfl
  have small : k % depth < depth := Nat.mod_lt _ (Nat.pos_of_ne_zero positive)
  have counted : k + 1 - depth = k - depth + if s.reflushes then 1 else 0 := by
    by_cases hk : depth ≤ k
    · rw [flushes, decide_eq_true (opened.2 hk)]
      simp only [if_true]
      omega
    · rw [flushes, decide_eq_false fun h => hk (opened.1 h)]
      simp only [Bool.false_eq_true, if_false]
      omega
  have history : History start (k + 1) (k + 1 - depth) s' := by
    rw [counted, ← finalState_of_ok run]
    exact h.history.acquire
  cases opens with
  | @opened more m calls reopens =>
    refine ⟨history, fun j slot' hslot' => ?_, ?_, ?_⟩
    · obtain ⟨rfl, rfl⟩ | ⟨other, hslot'⟩ := slot_setState_cases hslot hslot'
      · have : s.pool.cursor < k + 1 := by
          rw [stands.cursor]
          exact Nat.lt_succ_of_le (Nat.mod_le _ _)
        rw [if_pos this]
      · have apart : j ≠ k := by
          rintro rfl
          refine other ?_
          rw [stands.cursor, Nat.mod_eq_of_lt]
          rw [← stands.length]
          exact (List.getElem?_eq_some_iff.1 hslot').1
        rw [h.states j slot' hslot']
        have same : j < k ↔ j < k + 1 := by omega
        simp only [same]
    · change m.counters.fencedSubmits = _
      rw [calls.delivered.fenced, reopens.countP_fenced, h.fencedSubmits, counted, flushes]
      simp only [decide_eq_true_eq]
      exact Nat.add_assoc _ _ _
    · exact h.setting.trans (calls.delivered.setting.trans ⟨rfl, rfl, rfl, rfl⟩)

theorem Row.rowed {depth k : Nat} (row : Row start k s) (sound : start.Sound)
    (idle : ∀ slot ∈ start.pool.slots, slot.state = .idle) (positive : depth ≠ 0)
    (fresh : Stands depth 0 0 start.pool) : Rowed start depth k s := by
  induction row with
  | start =>
    refine ⟨?_, fun j slot hslot => ?_, ?_, ⟨rfl, rfl, rfl, rfl⟩⟩
    · rw [Nat.zero_sub]
      exact .start
    · rw [if_neg (Nat.not_lt_zero j)]
      exact idle slot (List.mem_of_getElem? hslot)
    · rw [Nat.zero_sub, Nat.add_zero]
  | next row run ih => exact ih.next sound positive fresh run

/-- On a machine that fails nothing every acquire succeeds. -/
theorem Rowed.exists_next {depth k : Nat} (h : Rowed start depth k s) (sound : start.Sound)
    (positive : depth ≠ 0) (fresh : Stands depth 0 0 start.pool) (reliable : start.machine.Reliable) :
    ∃ a s', acquire s = .ok a s' := by
  obtain ⟨slot, hslot⟩ := (h.history.stands sound positive fresh).exists_slot positive
  refine Ends.elim (((ends_acquire_opens hslot (h.history.sound sound)).and (ends_eq_ok ..)).mono
    fun r s' h' => ?_)
  obtain ⟨⟨works, -⟩, run⟩ := h'
  exact ⟨_, s', run _ (works (reliable.of_same h.setting))⟩

/-! ## From the making of a pool on -/

/-- How a pool of `depth` slots hands them out from `start` on. -/
structure TakesTurns (start : Session) (depth : Nat) : Prop where
  /-- After `k` acquires, of which `n` flushed their slot and counted it, the next one is for slot
  `k % depth`. -/
  turn : ∀ k n s, History start k n s → s.pool.autoFlushes = n ∧
    ∃ slot, s.pool.slots[k % depth]? = some slot ∧ acquire.Ends s (Serves s (k % depth) slot)
  /-- Acquires that all succeed flush once for each beyond the depth, and nothing else is submitted with a
  fence. -/
  row : ∀ k s, Row start k s → s.pool.autoFlushes = k - depth ∧
    s.machine.counters.fencedSubmits = start.machine.counters.fencedSubmits + (k - depth)
  works : start.machine.Reliable → ∀ k, ∃ s, Row start k s

/-- A pool that was just made hands out its slots in turn, whatever else is asked of it and whichever
calls fail. -/
theorem takesTurns_of_create {device : Device} {queue : Handle} {depth : Nat} {family : UInt32}
    {level : Int} {m m' : Machine} {pool : CommandPool}
    (created : CommandPool.create device queue depth family level m = .ok pool m') :
    TakesTurns ⟨m', pool⟩ depth := by
  obtain ⟨idle, -⟩ := CommandPool.slots_of_create created
  have sound := sound_of_idle (s := ⟨m', pool⟩) idle
  obtain ⟨-, positive, hpool, -⟩ := CommandPool.create_eq created
  have fresh : Stands depth 0 0 pool := by
    subst hpool
    exact ⟨by simp [CommandPool.fresh], (Nat.zero_mod depth).symm, rfl⟩
  refine ⟨fun k n s history => ?_, fun k s row => ?_, fun reliable k => ?_⟩
  · have stands := history.stands sound positive fresh
    obtain ⟨slot, hslot⟩ := stands.exists_slot positive
    have serves := ends_acquire_serves hslot (history.sound sound)
    rw [stands.cursor] at hslot serves
    exact ⟨stands.autoFlushes, slot, hslot, serves⟩
  · have rowed := row.rowed sound idle positive fresh
    exact ⟨(rowed.history.stands sound positive fresh).autoFlushes, rowed.fencedSubmits⟩
  · induction k with
    | zero => exact ⟨_, .start⟩
    | succ k ih =>
      obtain ⟨s, row⟩ := ih
      obtain ⟨a, s', run⟩ :=
        (row.rowed sound idle positive fresh).exists_next sound positive fresh reliable
      exact ⟨s', .next row run⟩

/-- A pool of two command buffers whose second begin fails: the third acquire is for its first slot again,
and flushes it. -/
theorem takesTurns_after_failure :
    let m : Machine := { schedule := .ofRules [{ point := .beginCommandBuffer, first := 2 }] }
    let start : Session := ⟨CommandPool.created m { memoryTypes := [] } 2 0 0,
      CommandPool.fresh { memoryTypes := [] } 1 2 0 1⟩
    let second := acquire.finalState (acquire.finalState start)
    let third := acquire.finalState second
    CommandPool.create { memoryTypes := [] } 1 2 0 0 m = .ok start.pool start.machine ∧
      History start 3 1 third ∧ TakesTurns start 2 := by
  intro m start second third
  have created : CommandPool.create { memoryTypes := [] } 1 2 0 0 m = .ok _ _ := rfl
  have flushes : start.reflushes = false ∧ (acquire.finalState start).reflushes = false ∧
    second.reflushes = true := by decide +kernel
  have history : History start 3 _ third := .acquire (.acquire (.acquire .start))
  rw [flushes.1, flushes.2.1, flushes.2.2] at history
  exact ⟨created, history, takesTurns_of_create created⟩

end Session

end CopyBench
