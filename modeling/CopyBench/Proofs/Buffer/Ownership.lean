import CopyBench.Proofs.Buffer.Making
/-!
# Who owns what a machine has

Some bound buffers own all that a machine has when each of its live buffers is one of them, bound to its
own memory, and there is no other memory. Making a buffer adds it to the owners or adds nothing,
releasing one takes it out, and copies leave them as they are.
-/

namespace CopyBench

open CopyBench.Action

namespace Machine

/-- The machine has the buffers of `owners` and no others, and `ranges` mappings are open. -/
def Owned (m : Machine) (owners : List BoundBuffer) (ranges : Nat) : Prop :=
  m.Inventory (owners.map (·.handle)) (owners.map fun b => (b.handle, b.memory)) (owners.map (·.memory)) ranges

variable {m m' : Machine} {owners owners' : List BoundBuffer} {ranges : Nat} {b : BoundBuffer}

theorem Owned.same (h : m.Owned owners ranges) (same : SameStock m m') : m'.Owned owners ranges :=
  Inventory.same h same

/-- In which order the owners are listed does not matter. -/
theorem Owned.perm (h : m.Owned owners ranges) (perm : owners.Perm owners') : m.Owned owners' ranges := by
  obtain ⟨liveBuffers, bindings, liveMemories, distinct, numbered, created, allocations, maps⟩ := h
  have handles := perm.map (·.handle)
  have memories := perm.map (·.memory)
  have objects := (handles.append memories).append_right (returned m.trace.toList)
  refine ⟨liveBuffers.trans handles, bindings.trans (perm.map _), liveMemories.trans memories,
    objects.nodup_iff.1 distinct, fun o ho => numbered o (objects.mem_iff.2 ho), ?_, ?_, maps⟩
  · rw [created, handles.length_eq]
  · rw [allocations, memories.length_eq]

/-! ## What an owner is -/

theorem Owned.binding (h : m.Owned owners ranges) (mem : b ∈ owners) :
    m.bindings.get? b.handle = some b.memory :=
  Table.mem_entries.1 (h.bindings.mem_iff.2 (List.mem_map.2 ⟨b, mem, rfl⟩))

theorem Owned.live (h : m.Owned owners ranges) (mem : b ∈ owners) :
    ∃ bytes, m.memories.get? b.memory = some bytes :=
  Table.mem_keys.1 (h.liveMemories.mem_iff.2 (List.mem_map.2 ⟨b, mem, rfl⟩))

theorem Owned.le (h : m.Owned owners ranges) (mem : b ∈ owners) :
    b.handle ≤ m.lastHandle ∧ b.memory ≤ m.lastHandle := by
  refine ⟨h.numbered _ ?_, h.numbered _ ?_⟩
  · exact List.mem_append_left _ (List.mem_append_left _ (List.mem_map.2 ⟨b, mem, rfl⟩))
  · exact List.mem_append_left _ (List.mem_append_right _ (List.mem_map.2 ⟨b, mem, rfl⟩))

/-- What is bound to the memory of an owner is that owner. -/
theorem Owned.owner (h : m.Owned owners ranges) {handle memory : Handle}
    (hget : m.bindings.get? handle = some memory) : ∃ b ∈ owners, b.handle = handle ∧ b.memory = memory := by
  obtain ⟨b, mem, heq⟩ := List.mem_map.1 (h.bindings.mem_iff.1 (Table.mem_entries.2 hget))
  cases heq
  exact ⟨b, mem, rfl, rfl⟩

/-- No two owners share a number. -/
theorem Owned.apart (h : m.Owned (b :: owners) ranges) {b' : BoundBuffer} (mem : b' ∈ owners) :
    b'.handle ≠ b.handle ∧ b'.memory ≠ b.memory := by
  have distinct := (List.nodup_append.1 (List.nodup_append.1 h.distinct).1)
  constructor
  · intro heq
    exact (List.nodup_cons.1 distinct.1).1 (List.mem_map.2 ⟨b', mem, heq⟩)
  · intro heq
    exact (List.nodup_cons.1 distinct.2.1).1 (List.mem_map.2 ⟨b', mem, heq⟩)

/-! ## Making and releasing -/

/-- A new number is bound to nothing. -/
theorem Owned.unbound (h : m.Owned owners ranges) {handle : Handle} (new : m.lastHandle < handle) :
    handle ∉ (owners.map fun b => (b.handle, b.memory)).map (·.1) := by
  rw [List.map_map]
  intro hmem
  obtain ⟨b, mem, rfl⟩ := List.mem_map.1 hmem
  exact Nat.not_lt.2 (h.le mem).1 new

/-- A buffer that is made is one owner more, and an attempt that fails leaves the owners as they were. -/
theorem Owned.making (h : m.Owned owners ranges) {spec : BufferSpec} {r : Except Failure BoundBuffer}
    (making : BoundBuffer.Making m spec r m') : m'.Owned (r.toOption.toList ++ owners) ranges := by
  have unbound := h.unbound (Nat.lt_succ_self _)
  have buffered := Inventory.buffered h spec.size spec.usage spec.sharing
  -- All but the first begin with a buffer that is bound to nothing.
  cases making with
  | refused noted => exact h.same noted.sameStock
  | homeless noted => exact (buffered.same noted.sameStock).destroyed_unbound unbound
  | @unbound _ _ size memoryType noted =>
    have allocated := buffered.allocated size memoryType
    exact ((allocated.same noted.sameStock).destroyed_unbound unbound).freed
  | @made _ size memoryType noted =>
    exact ((buffered.allocated size memoryType).bound unbound (m.lastHandle + 2)).same noted.sameStock

theorem Owned.released (h : m.Owned (b :: owners) ranges) :
    ((m.destroyed b.handle).freed b.memory).Owned owners ranges :=
  (Inventory.destroyed h).freed

/-- A staging buffer that is built is one owner more, and an attempt that fails leaves the owners as they
were. -/
theorem Owned.building (h : m.Owned owners ranges) {spec : BufferSpec} {size : UInt64} {contents : Contents}
    {r : Except Failure BoundBuffer} (building : StagedBuffer.Building m spec size contents r m') :
    m'.Owned (r.toOption.toList ++ owners) ranges := by
  cases building with
  | unmade making => exact h.making making
  | unwritten making noted => exact ((h.making making).same noted.sameStock).released
  | @built staging _ making fits =>
    have mapped := Inventory.mapped (h.making making) staging.memory 0 (staging.mappedSize 0 size)
    exact (mapped.same (sameStock_overwritten ..)).unmapped _

/-- Copies change nothing that is in stock. -/
theorem CopySteps.sameStock {copy : RecordedCopy} (steps : m.CopySteps copy m') : SameStock m m' := by
  obtain steps | ⟨m₁, b, before, -, after⟩ := steps
  · exact Steps.sameStock steps
  · have queued : SameStock m₁ (m₁.queued b copy) :=
      sameStock_event (trace_queued ..) rfl rfl rfl (.refl _) (Nat.le_refl _) rfl
    exact (before.sameStock.trans queued).trans after.sameStock

theorem Owned.copySteps (h : m.Owned owners ranges) {copy : RecordedCopy} (steps : m.CopySteps copy m') :
    m'.Owned owners ranges :=
  h.same steps.sameStock

end Machine

/-! ## Device buffers -/

namespace StagedBuffer

/-- The bound buffers of a device buffer, in the order in which they are released. -/
def parts (buffer : StagedBuffer) : List BoundBuffer := buffer.staging.toList ++ [buffer.main]

variable {buffer : StagedBuffer} {rest : List BoundBuffer} {ranges : Nat}

theorem parts_of_bare (bare : buffer.staging = none) : buffer.parts = [buffer.main] := by
  rw [parts, bare]
  rfl

theorem parts_of_staged {staging : BoundBuffer} (staged : buffer.staging = some staging) :
    buffer.parts = [staging, buffer.main] := by
  rw [parts, staged]
  rfl

section Fills

variable {m m' : Machine} {contents : Contents} {discard : Bool} {b' : StagedBuffer} {staging : BoundBuffer}

/-- A buffer that is ready to be uploaded owns its staging buffer. -/
theorem owned_prepared (owned : m.Owned (buffer.parts ++ rest) ranges)
    (prepared : Prepared m buffer contents b' staging m') : m'.Owned ([staging, buffer.main] ++ rest) ranges := by
  cases prepared with
  | kept staged => rwa [parts_of_staged staged] at owned
  | built bare building =>
    rw [parts_of_bare bare] at owned
    exact owned.building building

/-- A fill changes no owner but the buffer itself, however it ends. -/
theorem owned_filled {result : Except Failure Unit} (owned : m.Owned (buffer.parts ++ rest) ranges)
    (filled : Filled m buffer contents discard b' result m') : m'.Owned (b'.parts ++ rest) ranges := by
  cases filled with
  | unprepared bare building => exact owned.building building
  | interrupted prepared steps | uploaded prepared steps =>
    rw [parts_of_staged prepared.staged, prepared.main]
    exact (owned_prepared owned prepared).copySteps steps
  | discarded prepared steps =>
    rw [parts_of_bare rfl, prepared.main]
    exact ((owned_prepared owned prepared).copySteps steps).released

end Fills

end StagedBuffer

end CopyBench
