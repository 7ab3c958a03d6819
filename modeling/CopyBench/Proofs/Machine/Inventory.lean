import CopyBench.Proofs.Machine.Steps
import CopyBench.Proofs.Table
import Mathlib.Data.List.Count
/-!
# What a machine has in stock

An inventory of a machine lists its live buffers, which memory each is bound to, and its live memories.
No number in it was ever given back, and the counters agree with it. Each call on buffers and memories
puts one item in or takes one out, and no other step changes an inventory.
-/

namespace CopyBench

open CopyBench.Action

/-- The number that an event gives back: of a buffer that is destroyed or of a memory that is freed. -/
def Event.returns? (event : Event) : Option Handle :=
  match event.call, event.reply with
  | .destroyBuffer buffer, .done => some buffer
  | .freeMemory memory, .done => some memory
  | _, _ => none

/-- The numbers that were given back, in order. -/
def returned (events : List Event) : List Handle := events.filterMap Event.returns?

theorem returned_push (trace : Array Event) (event : Event) :
    returned (trace.push event).toList = returned trace.toList ++ event.returns?.toList := by
  cases h : event.returns? <;> simp [returned, h]

theorem returns?_failed (call : Call) (code : ResultCode) : Event.returns? ⟨call, .failed code⟩ = none := by
  cases call <;> rfl

/-- The counts of what is in stock. -/
def Counters.stock (c : Counters) : List Nat :=
  [c.buffersCreated, c.buffersDestroyed, c.allocations, c.frees, c.maps, c.unmaps]

namespace Machine

variable {m m' : Machine} {buffers memories : List Handle} {pairs : List (Handle × Handle)}
  {ranges : Nat} {b memory : Handle}

/-- The machine has the buffers and memories that are listed, bound as listed, and `ranges` mappings are
open. -/
structure Inventory (m : Machine) (buffers : List Handle) (pairs : List (Handle × Handle))
    (memories : List Handle) (ranges : Nat) : Prop where
  liveBuffers : m.bufferSizes.keys.Perm buffers
  bindings : m.bindings.entries.Perm pairs
  liveMemories : m.memories.keys.Perm memories
  /-- No number is used for two objects, and none of these was given back, nor any number twice. -/
  distinct : (buffers ++ memories ++ returned m.trace.toList).Nodup
  numbered : ∀ h ∈ buffers ++ memories ++ returned m.trace.toList, h ≤ m.lastHandle
  buffersCreated : m.counters.buffersCreated = m.counters.buffersDestroyed + buffers.length
  allocations : m.counters.allocations = m.counters.frees + memories.length
  maps : m.counters.maps = m.counters.unmaps + ranges

/-! ## Steps that change nothing in stock -/

/-- Two machines have the same in stock. -/
structure SameStock (m m' : Machine) : Prop where
  bufferSizes : m'.bufferSizes = m.bufferSizes
  bindings : m'.bindings = m.bindings
  memories : m'.memories.keys.Perm m.memories.keys
  returned : returned m'.trace.toList = returned m.trace.toList
  lastHandle : m.lastHandle ≤ m'.lastHandle
  stock : m'.counters.stock = m.counters.stock

theorem SameStock.refl (m : Machine) : SameStock m m := ⟨rfl, rfl, .refl _, rfl, Nat.le_refl _, rfl⟩

theorem SameStock.trans {m₁ m₂ m₃ : Machine} (h : SameStock m₁ m₂) (h' : SameStock m₂ m₃) : SameStock m₁ m₃ :=
  ⟨h'.bufferSizes.trans h.bufferSizes, h'.bindings.trans h.bindings, h'.memories.trans h.memories,
    h'.returned.trans h.returned, Nat.le_trans h.lastHandle h'.lastHandle, h'.stock.trans h.stock⟩

theorem Inventory.same (h : Inventory m buffers pairs memories ranges) (same : SameStock m m') :
    Inventory m' buffers pairs memories ranges := by
  obtain ⟨hbuffers, hbindings, hmemories, distinct, numbered, hcreated, hallocations, hmaps⟩ := h
  have hstock := same.stock
  simp only [Counters.stock, List.cons.injEq, and_true] at hstock
  obtain ⟨created, destroyed, allocations, frees, maps, unmaps⟩ := hstock
  refine ⟨same.bufferSizes ▸ hbuffers, same.bindings ▸ hbindings, same.memories.trans hmemories,
    same.returned ▸ distinct, fun o ho => ?_, ?_, ?_, ?_⟩
  · rw [same.returned] at ho
    exact Nat.le_trans (numbered o ho) same.lastHandle
  · rw [created, destroyed, hcreated]
  · rw [allocations, frees, hallocations]
  · rw [maps, unmaps, hmaps]

/-- A change with one event that gives nothing back. -/
theorem sameStock_event {event : Event} (trace : m'.trace = m.trace.push event)
    (gives : event.returns? = none) (bufferSizes : m'.bufferSizes = m.bufferSizes)
    (bindings : m'.bindings = m.bindings) (memories : m'.memories.keys.Perm m.memories.keys)
    (lastHandle : m.lastHandle ≤ m'.lastHandle) (stock : m'.counters.stock = m.counters.stock) :
    SameStock m m' :=
  ⟨bufferSizes, bindings, memories, by rw [trace, returned_push, gives]; exact List.append_nil _, lastHandle, stock⟩

theorem sameStock_refuse (m : Machine) (point : Entrypoint) (call : Call) (code : ResultCode) :
    SameStock m (m.refuse point call code) :=
  sameStock_event rfl (returns?_failed ..) rfl rfl (.refl _) (Nat.le_refl _) rfl

/-- Copies that are executed write memories that exist, and count nothing but themselves. -/
theorem replay_stock (copies : List RecordedCopy) (m : Machine) :
    (replay copies m).1.memories.keys.Perm m.memories.keys ∧
      (replay copies m).1.counters.stock = m.counters.stock := by
  induction copies generalizing m with
  | nil => exact ⟨.refl _, rfl⟩
  | cons copy copies ih =>
    unfold replay
    cases hcopied : m.copied copy with
    | error cause => exact ⟨.refl _, rfl⟩
    | ok m₁ =>
      obtain ⟨keys, stock⟩ := ih m₁
      obtain ⟨_, targetMemory, _, target, hs, ht, hsource, htarget, hsFits, htFits⟩ := canCopy_of_copied hcopied
      obtain rfl := Except.ok.inj (hcopied.symm.trans (copied_eq hs ht hsource htarget hsFits htFits))
      have held : targetMemory ∈ m.memories.keys := Table.mem_keys.2 ⟨target, htarget⟩
      exact ⟨keys.trans (Table.keys_insert_perm _ held), stock⟩

theorem sameStock_executed {fence : Option Handle} {cause : Option Panic}
    (run : m.executed b fence = (m', cause)) (queue : Handle) :
    SameStock m (m'.traced (.queueSubmit queue b fence) (handedReply cause)) := by
  obtain ⟨counters, hframe, -⟩ := executed_frame run
  -- The copies run on the machine that has counted the call and taken them from their command buffer.
  have hreplay := replay_stock (m.work b) (((m.tallied .queueSubmit).submission fence).taken b)
  rw [show replay (m.work b) _ = m.executed b fence from rfl, run, taken_frame] at hreplay
  have gives : Event.returns? ⟨.queueSubmit queue b fence, handedReply cause⟩ = none := by
    cases cause <;> rfl
  refine sameStock_event ?_ gives ?_ ?_ hreplay.1 ?_ hreplay.2
  · rw [← trace_executed run]
    rfl
  · exact (congrArg bufferSizes hframe).trans rfl
  · exact (congrArg Machine.bindings hframe).trans rfl
  · exact Nat.le_of_eq ((congrArg Machine.lastHandle hframe).trans rfl).symm

/-- No step of a pool changes what is in stock. -/
theorem Step.sameStock (step : Step m m') : SameStock m m' := by
  cases step with
  | told note => exact ⟨rfl, rfl, .refl _, rfl, Nat.le_refl _, rfl⟩
  | named | ended | drained | waited | unfenced | began =>
    exact sameStock_event rfl rfl rfl rfl (.refl _) (Nat.le_refl _) rfl
  | refused point call code => exact sameStock_refuse m point call code
  | lost point call code =>
    have counted : SameStock m m.lost := ⟨rfl, rfl, .refl _, rfl, Nat.le_refl _, rfl⟩
    exact counted.trans (sameStock_refuse m.lost point call code)
  | fenced => exact sameStock_event rfl rfl rfl rfl (.refl _) (Nat.le_succ _) rfl
  | handed queue run => exact sameStock_executed run queue

theorem Steps.sameStock (steps : Steps m m') : SameStock m m' :=
  Steps.preserve (I := SameStock m) (fun _ _ step h => h.trans step.sameStock) steps (.refl m)

/-! ## One item in, one item out -/

/-- A number that comes next is that of nothing in stock, and was not given back. -/
theorem Inventory.fresh (h : Inventory m buffers pairs memories ranges) :
    m.lastHandle + 1 ∉ buffers ++ memories ++ returned m.trace.toList :=
  fun hmem => Nat.not_succ_le_self _ (h.numbered _ hmem)

/-- A buffer that was made is in stock, and bound to nothing. -/
theorem Inventory.buffered (h : Inventory m buffers pairs memories ranges) (size : UInt64) (usage : UInt32)
    (sharing : Int) :
    Inventory (m.buffered size usage sharing) ((m.lastHandle + 1) :: buffers) pairs memories ranges := by
  have fresh := h.fresh
  have hreturned : returned (m.buffered size usage sharing).trace.toList = returned m.trace.toList :=
    (returned_push ..).trans (List.append_nil _)
  obtain ⟨hbuffers, hbindings, hmemories, distinct, numbered, hcreated, hallocations, hmaps⟩ := h
  have absent : m.bufferSizes.get? (m.lastHandle + 1) = none := by
    refine Option.eq_none_iff_forall_ne_some.2 fun size hsize => fresh ?_
    exact List.mem_append_left _ (List.mem_append_left _ (hbuffers.mem_iff.1 (Table.mem_keys.2 ⟨size, hsize⟩)))
  refine ⟨?_, hbindings, hmemories, ?_, ?_, ?_, hallocations, hmaps⟩
  · change (m.bufferSizes.insert (m.lastHandle + 1) size).keys.Perm _
    rw [Table.keys_insert, Table.erase_eq_self absent]
    exact hbuffers.cons _
  · rw [hreturned]
    exact List.nodup_cons.2 ⟨fresh, distinct⟩
  · rw [hreturned]
    exact List.forall_mem_cons.2 ⟨Nat.le_refl (m.lastHandle + 1), fun o ho => Nat.le_succ_of_le (numbered o ho)⟩
  · exact (congrArg (· + 1) hcreated).trans (Nat.add_assoc ..)

/-- Memory that was allocated is in stock. -/
theorem Inventory.allocated (h : Inventory m buffers pairs memories ranges) (size : UInt64)
    (memoryType : Nat) :
    Inventory (m.allocated size memoryType) buffers pairs ((m.lastHandle + 1) :: memories) ranges := by
  have fresh := h.fresh
  have hreturned : returned (m.allocated size memoryType).trace.toList = returned m.trace.toList :=
    (returned_push ..).trans (List.append_nil _)
  obtain ⟨hbuffers, hbindings, hmemories, distinct, numbered, hcreated, hallocations, hmaps⟩ := h
  have absent : m.memories.get? (m.lastHandle + 1) = none := by
    refine Option.eq_none_iff_forall_ne_some.2 fun bytes hbytes => fresh ?_
    exact List.mem_append_left _ (List.mem_append_right _ (hmemories.mem_iff.1 (Table.mem_keys.2 ⟨bytes, hbytes⟩)))
  -- The new number stands between those of the buffers and of the memories.
  have front : (buffers ++ (m.lastHandle + 1) :: memories ++ returned m.trace.toList).Perm
      ((m.lastHandle + 1) :: (buffers ++ memories ++ returned m.trace.toList)) :=
    List.perm_middle.append_right _
  refine ⟨hbuffers, hbindings, ?_, ?_, ?_, hcreated, ?_, hmaps⟩
  · change (m.memories.insert (m.lastHandle + 1) _).keys.Perm _
    rw [Table.keys_insert, Table.erase_eq_self absent]
    exact hmemories.cons _
  · rw [hreturned, front.nodup_iff]
    exact List.nodup_cons.2 ⟨fresh, distinct⟩
  · rw [hreturned]
    intro o ho
    rcases List.mem_cons.1 (front.mem_iff.1 ho) with rfl | ho
    · exact Nat.le_refl (m.lastHandle + 1)
    · exact Nat.le_succ_of_le (numbered o ho)
  · exact (congrArg (· + 1) hallocations).trans (Nat.add_assoc ..)

/-- Binding a buffer that is not bound. -/
theorem Inventory.bound (h : Inventory m buffers pairs memories ranges) (unbound : b ∉ pairs.map (·.1))
    (memory : Handle) : Inventory (m.bound b memory) buffers ((b, memory) :: pairs) memories ranges := by
  have hreturned : returned (m.bound b memory).trace.toList = returned m.trace.toList :=
    (returned_push ..).trans (List.append_nil _)
  obtain ⟨hbuffers, hbindings, hmemories, distinct, numbered, hcreated, hallocations, hmaps⟩ := h
  have absent : m.bindings.get? b = none := by
    refine Option.eq_none_iff_forall_ne_some.2 fun memory' hget => unbound ?_
    exact List.mem_map.2 ⟨_, hbindings.mem_iff.1 (Table.mem_entries.2 hget), rfl⟩
  refine ⟨hbuffers, ?_, hmemories, hreturned ▸ distinct, hreturned ▸ numbered, hcreated, hallocations, hmaps⟩
  change (m.bindings.insert b memory).entries.Perm _
  rw [Table.entries_insert, Table.erase_eq_self absent]
  exact hbindings.cons _

theorem Inventory.mapped (h : Inventory m buffers pairs memories ranges) (memory : Handle)
    (offset size : UInt64) :
    Inventory (m.mapped memory offset size) buffers pairs memories (ranges + 1) := by
  have hreturned : returned (m.mapped memory offset size).trace.toList = returned m.trace.toList :=
    (returned_push ..).trans (List.append_nil _)
  exact ⟨h.liveBuffers, h.bindings, h.liveMemories, hreturned ▸ h.distinct, hreturned ▸ h.numbered, h.buffersCreated,
    h.allocations, congrArg (· + 1) h.maps⟩

theorem Inventory.unmapped (h : Inventory m buffers pairs memories (ranges + 1)) (memory : Handle) :
    Inventory (m.unmapped memory) buffers pairs memories ranges := by
  have hreturned : returned (m.unmapped memory).trace.toList = returned m.trace.toList :=
    (returned_push ..).trans (List.append_nil _)
  refine ⟨h.liveBuffers, h.bindings, h.liveMemories, hreturned ▸ h.distinct, hreturned ▸ h.numbered, h.buffersCreated,
    h.allocations, h.maps.trans ?_⟩
  change m.counters.unmaps + (ranges + 1) = m.counters.unmaps + 1 + ranges
  omega

/-- Writing into a memory changes nothing in stock. -/
theorem sameStock_overwritten (m : Machine) (memory : Handle) (offset : Nat) (patch : ByteArray) :
    SameStock m (m.overwritten memory offset patch) := by
  unfold overwritten
  cases hget : m.memories.get? memory with
  | none => exact .refl m
  | some bytes =>
    have held : memory ∈ m.memories.keys := Table.mem_keys.2 ⟨bytes, hget⟩
    exact ⟨rfl, rfl, Table.keys_insert_perm _ held, rfl, Nat.le_refl _, rfl⟩

/-- A number that is taken out of stock is given back. -/
theorem returning_perm (buffers memories given : List Handle) (n : Handle) :
    (buffers ++ memories ++ (given ++ [n])).Perm (n :: (buffers ++ memories ++ given)) := by
  rw [← List.append_assoc]
  exact List.perm_append_singleton ..

theorem Inventory.destroyed_of (h : Inventory m (b :: buffers) pairs memories ranges)
    {rest : List (Handle × Handle)} (hrest : (m.bindings.erase b).entries.Perm rest) :
    Inventory (m.destroyed b) buffers rest memories ranges := by
  have hreturned : returned (m.destroyed b).trace.toList = returned m.trace.toList ++ [b] :=
    returned_push ..
  obtain ⟨hbuffers, hbindings, hmemories, distinct, numbered, hcreated, hallocations, hmaps⟩ := h
  have moved := returning_perm buffers memories (returned m.trace.toList) b
  obtain ⟨size, hsize⟩ := Table.mem_keys.1 (hbuffers.mem_iff.2 List.mem_cons_self)
  refine ⟨?_, hrest, hmemories, ?_, ?_, ?_, hallocations, hmaps⟩
  · exact ((Table.keys_perm_erase hsize).symm.trans hbuffers).cons_inv
  · rw [hreturned, moved.nodup_iff]
    exact distinct
  · rw [hreturned]
    exact fun o ho => numbered o (moved.mem_iff.1 ho)
  · change m.counters.buffersCreated = m.counters.buffersDestroyed + 1 + buffers.length
    rw [hcreated, List.length_cons]
    omega

/-- A buffer that is destroyed is taken out of stock, with what it was bound to. -/
theorem Inventory.destroyed {rest : List (Handle × Handle)}
    (h : Inventory m (b :: buffers) ((b, memory) :: rest) memories ranges) :
    Inventory (m.destroyed b) buffers rest memories ranges := by
  have hget := Table.mem_entries.1 (h.bindings.mem_iff.2 List.mem_cons_self)
  exact h.destroyed_of ((Table.entries_perm_erase hget).symm.trans h.bindings).cons_inv

/-- A buffer that was bound to nothing can be destroyed too. -/
theorem Inventory.destroyed_unbound (h : Inventory m (b :: buffers) pairs memories ranges)
    (unbound : b ∉ pairs.map (·.1)) : Inventory (m.destroyed b) buffers pairs memories ranges := by
  refine h.destroyed_of ?_
  rw [Table.erase_eq_self]
  · exact h.bindings
  · refine Option.eq_none_iff_forall_ne_some.2 fun memory hget => unbound ?_
    exact List.mem_map.2 ⟨_, h.bindings.mem_iff.1 (Table.mem_entries.2 hget), rfl⟩

/-- A memory that is freed is taken out of stock. -/
theorem Inventory.freed (h : Inventory m buffers pairs (memory :: memories) ranges) :
    Inventory (m.freed memory) buffers pairs memories ranges := by
  have hreturned : returned (m.freed memory).trace.toList = returned m.trace.toList ++ [memory] :=
    returned_push ..
  obtain ⟨hbuffers, hbindings, hmemories, distinct, numbered, hcreated, hallocations, hmaps⟩ := h
  have moved : (buffers ++ memories ++ (returned m.trace.toList ++ [memory])).Perm
      (buffers ++ memory :: memories ++ returned m.trace.toList) :=
    (returning_perm ..).trans (List.perm_middle.append_right _).symm
  obtain ⟨bytes, hbytes⟩ := Table.mem_keys.1 (hmemories.mem_iff.2 List.mem_cons_self)
  refine ⟨hbuffers, hbindings, ?_, ?_, ?_, hcreated, ?_, hmaps⟩
  · exact ((Table.keys_perm_erase hbytes).symm.trans hmemories).cons_inv
  · rw [hreturned, moved.nodup_iff]
    exact distinct
  · rw [hreturned]
    exact fun o ho => numbered o (moved.mem_iff.1 ho)
  · change m.counters.allocations = m.counters.frees + 1 + memories.length
    rw [hallocations, List.length_cons]
    omega

end Machine

end CopyBench
