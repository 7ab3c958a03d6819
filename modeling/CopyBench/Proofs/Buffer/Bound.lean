import CopyBench.Proofs.Buffer.Store
import CopyBench.Proofs.Machine.Reliable
/-!
# Bound buffers on a reliable machine

Making a buffer, mapping a range of it, writing the range and releasing the buffer do what they are
for, and to that buffer alone.
-/

namespace CopyBench.BoundBuffer

open CopyBench.Action CopyBench.Machine

variable {m : Machine} {b : BoundBuffer} {bytes : List UInt8}

/-! ## Making one -/

theorem local_told (note : Note) (m : Machine) : Local m (Console.tell note m) [] :=
  local_of_same rfl rfl rfl rfl rfl rfl (Nat.le_refl _) rfl rfl

theorem local_named (m : Machine) (objectType : UInt32) (handle : Handle) (name : String) :
    Local m (m.named objectType handle name) [] :=
  local_of_same rfl rfl rfl rfl rfl rfl (Nat.le_refl _) rfl rfl

theorem local_refl (m : Machine) : Local m m [] :=
  local_of_same rfl rfl rfl rfl rfl rfl (Nat.le_refl _) rfl rfl

/-- Attaching a name succeeds and changes no buffer. -/
theorem ends_nameObject_ok (reliable : m.Reliable) (device : Device) (objectType : UInt32)
    (handle : Handle) (name : String) :
    (device.nameObject objectType handle name).Ends m fun r m' => r = .ok (.ok ()) ∧ Local m m' [] := by
  unfold Device.nameObject
  rcases device.route with _ | _ | _
  · dsimp only
    rw [ends_nameObject, reliable.fault]
    exact ⟨rfl, local_named ..⟩
  · exact ⟨rfl, local_refl m⟩
  · dsimp only
    rw [ends_ite]
    split
    · rw [ends_bind, ends_log]
      exact ⟨rfl, local_told ..⟩
    · rw [ends_nameObject, reliable.fault]
      exact ⟨rfl, local_named ..⟩

theorem ends_attachName_ok (reliable : m.Reliable) (device : Device) (handle : Handle) (name : String) :
    (attachName device handle name).Ends m fun r m' => r = .ok () ∧ Local m m' [] := by
  rw [attachName, ends_bind]
  refine (ends_nameObject_ok reliable device _ handle name).mono fun r m' h => ?_
  obtain ⟨rfl, hlocal⟩ := h
  exact ⟨rfl, hlocal⟩

/-- The machine after a buffer was made, given memory and bound to it. -/
def made (m : Machine) (spec : BufferSpec) (size : UInt64) (memoryType : Nat) : Machine :=
  ((m.buffered spec.size spec.usage spec.sharing).allocated size memoryType).bound (m.lastHandle + 1)
    (m.lastHandle + 2)

theorem local_made (m : Machine) (spec : BufferSpec) (size : UInt64) (memoryType : Nat) :
    Local m (made m spec size memoryType) [] := by
  refine ⟨⟨rfl, rfl, rfl, rfl⟩, ⟨fun h hle _ => ?_, fun h hle _ => ?_, ?_⟩, rfl, rfl⟩
  · exact Table.get?_insert_of_ne _ _ (Nat.ne_of_lt (Nat.lt_succ_of_le hle))
  · exact Table.get?_insert_of_ne _ _ (Nat.ne_of_lt (Nat.lt_succ_of_le (Nat.le_succ_of_le hle)))
  · exact Nat.le_add_right m.lastHandle 2

theorem stored_made (m : Machine) (spec : BufferSpec) (size : UInt64) (memoryType : Nat) :
    (made m spec size memoryType).Stored ⟨m.lastHandle + 1, m.lastHandle + 2, spec, size⟩
      (List.replicate size.toNat freshByte) := by
  refine ⟨Table.get?_insert_self .., ⟨Bytes.constant size.toNat freshByte, Table.get?_insert_self .., ?_⟩,
    by simp, ?_, ?_⟩
  · simp [Bytes.data_constant]
  · exact Nat.le_succ (m.lastHandle + 1)
  · exact Nat.le_refl (m.lastHandle + 2)

/-- A buffer that was made holds the fresh octet everywhere. -/
theorem ends_create_ok (reliable : m.Reliable) {device : Device} {spec : BufferSpec}
    (found : (MemoryType.find? device.memoryTypes m.profile.typeBits spec.properties).isSome) :
    (create device spec).Ends m fun r m' => ∃ b, r = .ok b ∧ b.spec = spec ∧
      b.actualSize = requirement m.profile spec.size ∧
      (∀ o ∈ b.objects, m.lastHandle < o) ∧ Local m m' [] ∧
      m'.Stored b (List.replicate b.actualSize.toNat freshByte) := by
  obtain ⟨memoryType, hfound⟩ := Option.isSome_iff_exists.1 found
  rw [create, ends_bind, ends_orFatal, ends_createBuffer, reliable.fault]
  dsimp only
  rw [ends_bind, ends_memoryRequirement]
  dsimp only
  have hsize : (m.buffered spec.size spec.usage spec.sharing).bufferSizes.get? (m.lastHandle + 1) =
      some spec.size := Table.get?_insert_self ..
  have htype : MemoryType.find? device.memoryTypes
      (m.buffered spec.size spec.usage spec.sharing).profile.typeBits spec.properties =
        some memoryType := hfound
  rw [hsize, Option.getD_some, ends_bind, ends_onFailure, allocate, htype]
  dsimp only
  have hbuffered : (m.buffered spec.size spec.usage spec.sharing).Reliable :=
    reliable.of_same ⟨rfl, rfl, rfl, rfl⟩
  have hallocated (size : UInt64) :
      ((m.buffered spec.size spec.usage spec.sharing).allocated size memoryType).Reliable :=
    hbuffered.of_same ⟨rfl, rfl, rfl, rfl⟩
  rw [ends_orFatal, ends_allocateMemory, hbuffered.fault]
  dsimp only
  rw [ends_bind, ends_onFailure, ends_orFatal, ends_bindBufferMemory, (hallocated _).fault]
  dsimp only
  have hmade := local_made m spec (requirement m.profile spec.size) memoryType
  have hstored := stored_made m spec (requirement m.profile spec.size) memoryType
  have hnew : ∀ o ∈ [m.lastHandle + 1, m.lastHandle + 2], m.lastHandle < o := by simp
  cases spec.name with
  | none =>
    dsimp only
    rw [ends_bind, ends_log]
    exact ⟨_, rfl, rfl, rfl, hnew, hmade.trans (local_told _ _), hstored.kept (local_told _ _).toKeeps (by simp)⟩
  | some name =>
    dsimp only
    rw [ends_bind]
    refine (ends_attachName_ok (reliable.of_same hmade.toSameSetting) device _ name).mono fun r m' h => ?_
    obtain ⟨rfl, hnamed⟩ := h
    dsimp only
    rw [ends_bind, ends_log]
    have htold (note : Note) := hnamed.trans (local_told note m')
    exact ⟨_, rfl, rfl, rfl, hnew, hmade.trans (htold _), hstored.kept (htold _).toKeeps (by simp)⟩

/-! ## Mapping one -/

/-- How many bytes a mapping asks for: all that are left from `offset` on, of which there are none
beyond the end, or `size`. -/
def reach (b : BoundBuffer) (offset size : UInt64) : Nat :=
  if size = wholeSize then b.actualSize.toNat - offset.toNat else size.toNat

theorem toNat_mappedSize (b : BoundBuffer) (offset size : UInt64) :
    (b.mappedSize offset size).toNat = b.reach offset size := by
  unfold mappedSize reach
  split
  case isFalse => rfl
  split
  case isTrue hle => exact UInt64.toNat_sub_of_le _ _ hle
  case isFalse hlt =>
    have hlt : b.actualSize.toNat < offset.toNat := UInt64.lt_iff_toNat_lt.1 (UInt64.not_le.1 hlt)
    exact (Nat.sub_eq_zero_of_le (Nat.le_of_lt hlt)).symm

theorem reach_of_length {cell : Cell} (h : cell.bytes.length = b.actualSize.toNat) (offset size : UInt64) :
    b.reach offset size = cell.reach offset size := by
  rw [reach, Cell.reach, h]

/-- As many octets as the buffer has, from its start on, are mapped as asked for. -/
theorem mappedSize_of_le {size : UInt64} (h : size ≤ b.actualSize) : b.mappedSize 0 size = size := by
  unfold mappedSize
  split
  case isFalse => rfl
  case isTrue hwhole =>
    have hle : b.actualSize ≤ size := by
      rw [hwhole, UInt64.le_iff_toNat_le]
      exact Nat.le_of_lt_succ b.actualSize.toNat_lt
    rw [if_pos (UInt64.le_iff_toNat_le.2 (Nat.zero_le _)), UInt64.sub_zero]
    exact UInt64.le_antisymm hle h

/-- A range that does not lie in the buffer is turned down, with what was asked for. -/
theorem map_outside {offset size : UInt64} (outside : b.actualSize.toNat < offset.toNat + b.reach offset size)
    (m : Machine) :
    b.map offset size m =
      .error (.error (.mapRange offset (b.mappedSize offset size) b.actualSize)) m := by
  have uncovered : ¬b.covers offset (b.mappedSize offset size) = true := by
    rw [covers_iff, toNat_mappedSize]
    exact Nat.not_le.2 outside
  rw [map, if_neg uncovered]
  rfl

/-- A range that lies in a live buffer is asked of the device, which only the schedule makes refuse it. -/
theorem ends_map_inside (live : m.memories.contains b.memory = true) {offset size : UInt64}
    (inside : offset.toNat + b.reach offset size ≤ b.actualSize.toNat)
    (Q : Except Failure MappedRange → Machine → Prop) :
    (b.map offset size).Ends m Q ↔
      match m.fault .mapMemory with
      | some code => Q (.error (.error (.vulkan Entrypoint.mapMemory.symbol code)))
          (m.refuse .mapMemory (.mapMemory b.memory offset (b.mappedSize offset size)) code)
      | none => Q (.ok ⟨b.memory, offset, b.mappedSize offset size⟩)
          (m.mapped b.memory offset (b.mappedSize offset size)) := by
  rw [← toNat_mappedSize] at inside
  rw [map, ends_ite, if_pos (covers_iff.2 inside), ends_bind, ends_orOperational, ends_mapMemory]
  cases m.fault .mapMemory with
  | some code => exact Iff.rfl
  | none =>
    dsimp only
    rw [if_pos live]
    exact Iff.rfl

/-- A range that lies in the buffer is mapped. -/
theorem ends_map_ok (reliable : m.Reliable) (stored : m.Stored b bytes) {offset size : UInt64}
    (fits : offset.toNat + (b.mappedSize offset size).toNat ≤ bytes.length)
    (Q : Except Failure MappedRange → Machine → Prop) :
    (b.map offset size).Ends m Q ↔
      Q (.ok ⟨b.memory, offset, b.mappedSize offset size⟩)
        (m.mapped b.memory offset (b.mappedSize offset size)) := by
  obtain ⟨array, hget, -⟩ := stored.memory
  have live : m.memories.contains b.memory = true := by rw [Table.contains, hget]; rfl
  rw [toNat_mappedSize, stored.length] at fits
  rw [ends_map_inside live fits, reliable.fault]

theorem local_mapped (m : Machine) (memory : Handle) (offset size : UInt64) :
    Local m (m.mapped memory offset size) [] :=
  local_of_same rfl rfl rfl rfl rfl rfl (Nat.le_refl _) rfl rfl

theorem local_unmapped (m : Machine) (memory : Handle) : Local m (m.unmapped memory) [] :=
  local_of_same rfl rfl rfl rfl rfl rfl (Nat.le_refl _) rfl rfl

theorem local_overwritten (m : Machine) (memory : Handle) (offset : Nat) (patch : ByteArray) :
    Local m (m.overwritten memory offset patch) [memory] := by
  unfold overwritten
  cases m.memories.get? memory with
  | none => exact (local_refl m).weaken (List.nil_subset _)
  | some array =>
    refine ⟨⟨rfl, rfl, rfl, rfl⟩, ⟨fun _ _ _ => rfl, fun h _ hnot => ?_, Nat.le_refl _⟩, rfl, rfl⟩
    exact Table.get?_insert_of_ne _ _ (by simpa using hnot)

/-- Writing a patch that lies in the buffer replaces the bytes under it and no others. -/
theorem stored_overwritten (stored : m.Stored b bytes) {offset : Nat} {patch : ByteArray}
    (fits : offset + patch.size ≤ bytes.length) :
    (m.overwritten b.memory offset patch).Stored b (patched bytes offset patch.data.toList) := by
  obtain ⟨array, hget, rfl⟩ := stored.memory
  have hrun : m.overwritten b.memory offset patch =
      { m with memories := m.memories.insert b.memory (Bytes.splice array offset patch) } := by
    rw [overwritten, hget]
  rw [hrun]
  refine ⟨stored.binding, ⟨_, Table.get?_insert_self .., ?_⟩, ?_, stored.handle_le, stored.memory_le⟩
  · rw [Bytes.toList_splice]
    rfl
  · rw [length_patched (by simpa using fits), stored.length]

/-- The machine after a range was mapped, written and unmapped again. -/
def written (m : Machine) (b : BoundBuffer) (offset size : UInt64) (patch : ByteArray) : Machine :=
  ((m.mapped b.memory offset size).overwritten b.memory offset.toNat patch).unmapped b.memory

theorem local_written (m : Machine) (b : BoundBuffer) (offset size : UInt64) (patch : ByteArray) :
    Local m (written m b offset size patch) [b.memory] :=
  ((local_mapped m b.memory offset size).weaken (List.nil_subset _)).trans
    ((local_overwritten _ b.memory offset.toNat patch).trans
      ((local_unmapped _ b.memory).weaken (List.nil_subset _)))

theorem stored_written (stored : m.Stored b bytes) {offset : UInt64} (size : UInt64) {patch : ByteArray}
    (fits : offset.toNat + patch.size ≤ bytes.length) :
    (written m b offset size patch).Stored b (patched bytes offset.toNat patch.data.toList) :=
  (stored_overwritten (stored.kept (local_mapped m b.memory offset size).toKeeps (by simp)) fits).kept
    (local_unmapped _ b.memory).toKeeps (by simp)

/-- What is written through a range is cut to its size. -/
theorem size_cut (range : MappedRange) (patch : ByteArray) :
    (patch.extract 0 range.size.toNat).size ≤ range.size.toNat := by
  rw [ByteArray.size_extract]
  omega

/-- A patch as long as its range is written as it is. -/
theorem ends_write {range : MappedRange} {patch : ByteArray} (h : patch.size = range.size.toNat)
    (m : Machine) (Q : Except Failure Unit → Machine → Prop) :
    (range.write patch).Ends m Q ↔ Q (.ok ()) (m.overwritten range.memory range.offset.toNat patch) := by
  rw [MappedRange.write, ← h, ByteArray.extract_zero_size, ends_overwrite]

/-! ## Releasing one -/

theorem ends_release (b : BoundBuffer) (m : Machine) (Q : Except Failure Unit → Machine → Prop) :
    b.release.Ends m Q ↔ Q (.ok ()) ((m.destroyed b.handle).freed b.memory) := by
  rw [release, ends_bind, ends_destroyBuffer]
  exact Iff.rfl

/-- Releasing a buffer takes nothing from the others. -/
theorem local_released (m : Machine) (b : BoundBuffer) :
    Local m ((m.destroyed b.handle).freed b.memory) b.objects := by
  refine ⟨⟨rfl, rfl, rfl, rfl⟩, ⟨fun h _ hnot => ?_, fun h _ hnot => ?_, Nat.le_refl _⟩, rfl, rfl⟩
  · exact Table.get?_erase_of_ne _ fun heq => hnot (by simp [objects, heq])
  · exact Table.get?_erase_of_ne _ fun heq => hnot (by simp [objects, heq])

end CopyBench.BoundBuffer
