import CopyBench.Proofs.Buffer.Bound
/-!
# What a mapped range shows

A range of a memory that is mapped is a window on some of its bytes. What is read through it are those
bytes; what is written through it, however often, replaces those bytes and no others, neither of this
memory nor of another. However the mapping ends, it ends with one call.

A buffer is mapped exactly when the range lies in its memory, where the end of the range is a natural
number that nothing wraps around. Any other range is turned down before the device hears of it.
-/

namespace CopyBench

open CopyBench.Action

namespace Machine

/-- Nothing but the bytes of one memory differs. -/
structure Rewrites (memory : Handle) (m m' : Machine) : Prop where
  frame : m' = { m with memories := m'.memories }
  others : ∀ other, other ≠ memory → m'.memories.get? other = m.memories.get? other

theorem Rewrites.refl (memory : Handle) (m : Machine) : Rewrites memory m m := ⟨rfl, fun _ _ => rfl⟩

theorem Rewrites.trans {memory : Handle} {m₁ m₂ m₃ : Machine} (h : Rewrites memory m₁ m₂)
    (h' : Rewrites memory m₂ m₃) : Rewrites memory m₁ m₃ := by
  refine ⟨?_, fun other hne => (h'.others other hne).trans (h.others other hne)⟩
  rw [h'.frame, h.frame]

end Machine

namespace MappedRange

open Machine (Rewrites)

variable {range : MappedRange} {m m' : Machine} {before shown after : List UInt8}

/-- A window with the octets `shown` after a patch was written from its start on. What the patch holds
beyond the window is left out. -/
def overlaid (shown patch : List UInt8) : List UInt8 := patch.take shown.length ++ shown.drop patch.length

@[simp] theorem length_overlaid (shown patch : List UInt8) : (overlaid shown patch).length = shown.length := by
  simp [overlaid]
  omega

/-- The octets of a window after some patches were written, one after another. -/
def overlaidBy (shown : List UInt8) (patches : List ByteArray) : List UInt8 :=
  patches.foldl (fun shown patch => overlaid shown patch.data.toList) shown

@[simp] theorem length_overlaidBy (shown : List UInt8) (patches : List ByteArray) :
    (overlaidBy shown patches).length = shown.length := by
  induction patches generalizing shown with
  | nil => rfl
  | cons patch patches ih => exact (ih _).trans (length_overlaid ..)

/-- The range shows the octets `shown` of its memory, between `before` and `after`. -/
structure Shows (range : MappedRange) (m : Machine) (before shown after : List UInt8) : Prop where
  memory : ∃ bytes, m.memories.get? range.memory = some bytes ∧ bytes.data.toList = before ++ shown ++ after
  start : before.length = range.offset.toNat
  length : shown.length = range.size.toNat

/-- A range that lies in a live memory shows a part of it. -/
theorem shows_of_fits (range : MappedRange) {bytes : ByteArray} (live : m.memories.get? range.memory = some bytes)
    (fits : range.offset.toNat + range.size.toNat ≤ bytes.size) :
    ∃ before shown after, bytes.data.toList = before ++ shown ++ after ∧ range.Shows m before shown after := by
  have size : bytes.data.toList.length = bytes.size := Array.length_toList
  refine ⟨bytes.data.toList.take range.offset.toNat,
    (bytes.data.toList.drop range.offset.toNat).take range.size.toNat,
    bytes.data.toList.drop (range.offset.toNat + range.size.toNat), ?_, ⟨bytes, live, ?_⟩, ?_, ?_⟩
  · rw [List.append_assoc, ← List.drop_drop, List.take_append_drop, List.take_append_drop]
  · rw [List.append_assoc, ← List.drop_drop, List.take_append_drop, List.take_append_drop]
  · rw [List.length_take, size]
    omega
  · rw [List.length_take, List.length_drop, size]
    omega

/-! ## Reading and writing -/

/-- What is read is what is shown. -/
theorem Shows.ends_read (h : range.Shows m before shown after) :
    range.read.Ends m fun r m' => m' = m ∧ ∃ bytes, r = .ok bytes ∧ bytes.data.toList = shown := by
  obtain ⟨⟨bytes, live, octets⟩, start, length⟩ := h
  rw [read, ends_bind, Machine.ends_contents, live]
  refine ⟨rfl, _, rfl, ?_⟩
  rw [Option.getD_some, Bytes.slice, ByteArray.data_extract, Array.toList_extract, List.extract_eq_take_drop,
    octets, ← start, ← length, Nat.add_sub_cancel_left, List.append_assoc, List.drop_left, List.take_left]

/-- What is written replaces what is shown, and nothing else. -/
theorem Shows.ends_write (h : range.Shows m before shown after) (patch : ByteArray) :
    (range.write patch).Ends m fun r m' => r = .ok () ∧ Rewrites range.memory m m' ∧
      range.Shows m' before (overlaid shown patch.data.toList) after := by
  obtain ⟨⟨bytes, live, octets⟩, start, length⟩ := h
  rw [write, Machine.ends_overwrite, Machine.overwritten, live]
  refine ⟨rfl, ⟨rfl, fun other hne => Table.get?_insert_of_ne _ _ hne⟩,
    ⟨_, Table.get?_insert_self .., ?_⟩, start, ?_⟩
  · have cut : (patch.extract 0 range.size.toNat).data.toList = patch.data.toList.take shown.length := by
      rw [ByteArray.data_extract, Array.toList_extract, List.extract_eq_take_drop, Nat.sub_zero, List.drop_zero,
        length]
    have size : (patch.extract 0 range.size.toNat).size = (patch.data.toList.take shown.length).length := by
      rw [← cut, Array.length_toList]
      rfl
    have within : (patch.data.toList.take shown.length).length ≤ shown.length := List.length_take_le ..
    have rest : shown.drop (patch.data.toList.take shown.length).length = shown.drop patch.data.toList.length := by
      rw [List.length_take]
      by_cases h : shown.length ≤ patch.data.toList.length
      · rw [Nat.min_eq_left h, List.drop_length, List.drop_eq_nil_of_le h]
      · rw [Nat.min_eq_right (Nat.le_of_not_le h)]
    rw [Bytes.toList_splice, cut, size, octets, overlaid, ← start, List.append_assoc before shown after,
      List.take_left, ← List.drop_drop, List.drop_left, List.drop_append_of_le_length within, rest]
    simp only [List.append_assoc]
  · rw [length_overlaid, length]

/-- Several patches are written through a range. -/
def writeAll (range : MappedRange) (patches : List ByteArray) : Action Machine Unit := patches.forM range.write

/-- However often is written, only what is shown is replaced. -/
theorem Shows.ends_writeAll (h : range.Shows m before shown after) (patches : List ByteArray) :
    (range.writeAll patches).Ends m fun r m' => r = .ok () ∧ Rewrites range.memory m m' ∧
      range.Shows m' before (overlaidBy shown patches) after := by
  unfold writeAll
  induction patches generalizing m shown with
  | nil => exact ⟨rfl, .refl _ m, h⟩
  | cons patch patches ih =>
    rw [List.forM_eq_forM, List.forM_cons, ends_bind]
    refine (h.ends_write patch).mono fun r m₁ h₁ => ?_
    obtain ⟨rfl, rewrites, shows₁⟩ := h₁
    refine (ih shows₁).mono fun r m₂ h₂ => ?_
    obtain ⟨rfl, rewrites', shows₂⟩ := h₂
    exact ⟨rfl, rewrites.trans rewrites', shows₂⟩

/-! ## Ending the mapping -/

/-- The mapping ended with one call, while the range showed `shown`. -/
structure Ended (range : MappedRange) (m m' : Machine) (before shown after : List UInt8) : Prop where
  trace : m'.trace = m.trace.push ⟨.unmapMemory range.memory, .done⟩
  shows : range.Shows m' before shown after
  others : ∀ other, other ≠ range.memory → m'.memories.get? other = m.memories.get? other

theorem Shows.ended (h : range.Shows m' before shown after) (rewrites : Rewrites range.memory m m') :
    range.Ended m (m'.unmapped range.memory) before shown after := by
  refine ⟨?_, ⟨h.memory, h.start, h.length⟩, rewrites.others⟩
  rw [Machine.trace_unmapped, rewrites.frame]

/-- What a caller can do with a range that is mapped, and what comes of it. -/
structure Exact (range : MappedRange) (m : Machine) (before shown after : List UInt8) : Prop where
  shows : range.Shows m before shown after
  /-- What is written is read, and nothing but the bytes that are shown differs. -/
  written : ∀ patches, (range.writeAll patches).Ends m fun r m' => r = .ok () ∧ Rewrites range.memory m m' ∧
    range.Shows m' before (overlaidBy shown patches) after ∧
      range.read.Ends m' fun r m'' => m'' = m' ∧
        ∃ bytes, r = .ok bytes ∧ bytes.data.toList = overlaidBy shown patches
  /-- The mapping is ended by hand. -/
  unmapped : ∀ patches, (range.writeAll patches >>= fun _ => range.unmap).Ends m fun r m' =>
    r = .ok () ∧ range.Ended m m' before (overlaidBy shown patches) after
  /-- The mapping is ended because its scope is left, with a value, an error or a panic. -/
  left : ∀ (patches : List ByteArray) (α : Type) (result : Except Failure α),
    ((range.writeAll patches >>= fun _ => conclude result).ensuring range.unmap).Ends m fun r m' =>
      r = result ∧ range.Ended m m' before (overlaidBy shown patches) after

theorem Shows.exact (h : range.Shows m before shown after) : range.Exact m before shown after := by
  refine ⟨h, fun patches => ?_, fun patches => ?_, fun patches α result => ?_⟩
  · refine (h.ends_writeAll patches).mono fun r m' h' => ?_
    obtain ⟨rfl, rewrites, shows⟩ := h'
    exact ⟨rfl, rewrites, shows, shows.ends_read⟩
  · rw [ends_bind]
    refine (h.ends_writeAll patches).mono fun r m' h' => ?_
    obtain ⟨rfl, rewrites, shows⟩ := h'
    exact ⟨rfl, shows.ended rewrites⟩
  · rw [ends_ensuring, ends_bind]
    refine (h.ends_writeAll patches).mono fun r m' h' => ?_
    obtain ⟨rfl, rewrites, shows⟩ := h'
    dsimp only
    rw [ends_conclude]
    exact ⟨rfl, shows.ended rewrites⟩

end MappedRange

/-! ## Mapping a buffer -/

namespace BoundBuffer

variable {m : Machine} {b : BoundBuffer} {bytes : ByteArray} {offset size : UInt64}

/-- The ways in which the device answers when it is asked to map `len` bytes at `offset`. -/
inductive Opening (m : Machine) (b : BoundBuffer) (offset len : UInt64) :
    Except Failure MappedRange → Machine → Prop where
  | refused {m' : Machine} {code : ResultCode} (fault : m.fault .mapMemory = some code)
      (trace : m'.trace = m.trace.push ⟨.mapMemory b.memory offset len, .failed code⟩)
      (memories : m'.memories = m.memories) :
    Opening m b offset len (.error (.error (.vulkan Entrypoint.mapMemory.symbol code))) m'
  /-- The range shows the `len` bytes at `offset` of the memory. -/
  | opened {m' : Machine} {before shown after : List UInt8} (fault : m.fault .mapMemory = none)
      (trace : m'.trace = m.trace.push ⟨.mapMemory b.memory offset len, .done⟩)
      (memories : m'.memories = m.memories)
      (all : before.length + shown.length + after.length = b.actualSize.toNat)
      (exactly : MappedRange.Exact ⟨b.memory, offset, len⟩ m' before shown after) :
    Opening m b offset len (.ok ⟨b.memory, offset, len⟩) m'

/-- Mapping `size` bytes of a buffer at `offset` is exact. -/
structure MapsExactly (m : Machine) (b : BoundBuffer) (offset size : UInt64) : Prop where
  length : (b.mappedSize offset size).toNat = b.reach offset size
  /-- The device is asked exactly when the range lies in the memory. -/
  asked : ((b.map offset size).finalState m).trace ≠ m.trace ↔
    offset.toNat + b.reach offset size ≤ b.actualSize.toNat
  /-- Else the range is turned down as it was asked for, and nothing changes. -/
  outside : b.actualSize.toNat < offset.toNat + b.reach offset size →
    b.map offset size m = .error (.error (.mapRange offset (b.mappedSize offset size) b.actualSize)) m
  inside : offset.toNat + b.reach offset size ≤ b.actualSize.toNat →
    (b.map offset size).Ends m (Opening m b offset (b.mappedSize offset size))

/-- A range that lies in a live memory is asked of the device. -/
theorem ends_map_opening (live : m.memories.get? b.memory = some bytes) (full : bytes.size = b.actualSize.toNat)
    (inside : offset.toNat + b.reach offset size ≤ b.actualSize.toNat) :
    (b.map offset size).Ends m (Opening m b offset (b.mappedSize offset size)) := by
  have contains : m.memories.contains b.memory = true := by rw [Table.contains, live]; rfl
  rw [ends_map_inside contains inside]
  cases fault : m.fault .mapMemory with
  | some code => exact .refused fault rfl rfl
  | none =>
    have fits : offset.toNat + (b.mappedSize offset size).toNat ≤ bytes.size := by
      rw [toNat_mappedSize, full]
      exact inside
    obtain ⟨before, shown, after, octets, shows⟩ :=
      MappedRange.shows_of_fits ⟨b.memory, offset, b.mappedSize offset size⟩ live fits
    refine .opened fault rfl rfl ?_ (MappedRange.Shows.exact ⟨shows.memory, shows.start, shows.length⟩)
    rw [← full, ← ByteArray.size_data, ← Array.length_toList, octets, List.length_append, List.length_append]

theorem mapsExactly_of_live (live : m.memories.get? b.memory = some bytes) (full : bytes.size = b.actualSize.toNat)
    (offset size : UInt64) : b.MapsExactly m offset size := by
  refine ⟨toNat_mappedSize .., ?_, fun outside => map_outside outside m, ends_map_opening live full⟩
  by_cases inside : offset.toNat + b.reach offset size ≤ b.actualSize.toNat
  · refine iff_of_true (ends_finalState (Q := fun m' : Machine => m'.trace ≠ m.trace) |>.1 ?_) inside
    refine (ends_map_opening live full inside).mono fun r m' opening heq => ?_
    -- A trace with one event more is another trace.
    have grown : m'.trace.size = m.trace.size + 1 := by
      cases opening with
      | refused _ trace | opened _ trace => rw [trace, Array.size_push]
    rw [heq] at grown
    omega
  · refine iff_of_false (fun moved => moved ?_) inside
    rw [finalState, map_outside (Nat.not_le.1 inside)]

end BoundBuffer

end CopyBench
