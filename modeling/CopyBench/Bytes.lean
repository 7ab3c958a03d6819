/-!
# Cutting, pasting and repeating bytes

`slice` reads a range of a byte array, `transfer` and `splice` write one, and
nothing touches what lies outside of the range. `cycled` repeats an array up to
a size.
-/

namespace CopyBench.Bytes

/-- Whether `size` octets at `offset` lie in an array of `capacity` octets. -/
def fits (capacity offset size : Nat) : Bool := offset + size ≤ capacity

/-- The `size` octets at `offset`. -/
def slice (bytes : ByteArray) (offset size : Nat) : ByteArray :=
  bytes.extract offset (offset + size)

/-- `target` with `size` octets of `source` written over its own. -/
def transfer (source : ByteArray) (sourceOffset : Nat) (target : ByteArray)
    (targetOffset size : Nat) : ByteArray :=
  source.copySlice sourceOffset target targetOffset size

/-- `bytes` with `patch` written over the octets at `offset`. -/
def splice (bytes : ByteArray) (offset : Nat) (patch : ByteArray) : ByteArray :=
  transfer patch 0 bytes offset patch.size

theorem toList_transfer {source target : ByteArray} {sourceOffset targetOffset size : Nat}
    (h : fits source.size sourceOffset size) :
    (transfer source sourceOffset target targetOffset size).data.toList =
      target.data.toList.take targetOffset ++
        (slice source sourceOffset size).data.toList ++
          target.data.toList.drop (targetOffset + size) := by
  have h : sourceOffset + size ≤ source.size := by simpa [fits] using h
  have hmin : min size (source.size - sourceOffset) = size := by omega
  simp only [transfer, slice, ByteArray.copySlice, ByteArray.size_data, hmin, ByteArray.data_extract,
    Array.toList_append, Array.toList_extract, List.extract_eq_take_drop, Nat.sub_zero, List.drop_zero,
    Nat.add_sub_cancel_left]
  congr 1
  exact List.take_of_length_le (by simp)

theorem toList_splice (bytes : ByteArray) (offset : Nat) (patch : ByteArray) :
    (splice bytes offset patch).data.toList =
      bytes.data.toList.take offset ++ patch.data.toList ++
        bytes.data.toList.drop (offset + patch.size) := by
  simp [splice, toList_transfer, fits, slice]

theorem size_splice {bytes patch : ByteArray} {offset : Nat} (h : offset + patch.size ≤ bytes.size) :
    (splice bytes offset patch).size = bytes.size := by
  rw [ByteArray.size, ← Array.length_toList, toList_splice]
  simp only [List.length_append, List.length_take, List.length_drop, Array.length_toList, ByteArray.size_data]
  omega

/-! ## Repeating -/

/-- `bytes` followed by `unit`, `n` times. -/
def appendTimes (unit : ByteArray) : Nat → ByteArray → ByteArray
  | 0, bytes => bytes
  | n + 1, bytes => appendTimes unit n (bytes ++ unit)

/-- The first `n` octets of `unit` repeated without end. -/
def cycled (unit : ByteArray) (n : Nat) : ByteArray :=
  appendTimes unit (n / unit.size) (ByteArray.emptyWithCapacity n) ++ unit.extract 0 (n % unit.size)

/-- The number of octets that are put down at a time. -/
def stride : Nat := 256

/-- The same octet `n` times. -/
def constant (n : Nat) (b : UInt8) : ByteArray := cycled ⟨Array.replicate stride b⟩ n

theorem toList_appendTimes (unit : ByteArray) (n : Nat) (bytes : ByteArray) :
    (appendTimes unit n bytes).data.toList =
      bytes.data.toList ++ (List.replicate n unit.data.toList).flatten := by
  induction n generalizing bytes with
  | zero => simp [appendTimes]
  | succ n ih =>
    simp [appendTimes, ih, ByteArray.data_append, List.replicate_succ]

theorem data_emptyWithCapacity (n : Nat) : (ByteArray.emptyWithCapacity n).data = #[] := rfl

theorem toList_cycled (unit : ByteArray) (n : Nat) :
    (cycled unit n).data.toList =
      (List.replicate (n / unit.size) unit.data.toList).flatten ++
        unit.data.toList.take (n % unit.size) := by
  simp only [cycled, ByteArray.data_append, Array.toList_append, toList_appendTimes,
    data_emptyWithCapacity, List.nil_append, ByteArray.data_extract, Array.toList_extract,
    List.extract_eq_take_drop, Nat.sub_zero, List.drop_zero]

theorem data_constant (n : Nat) (b : UInt8) : (constant n b).data = Array.replicate n b := by
  apply Array.ext'
  have hr : min (n % stride) stride = n % stride :=
    Nat.min_eq_left (Nat.le_of_lt (Nat.mod_lt n (by simp [stride])))
  simp only [constant, toList_cycled, ByteArray.size, Array.size_replicate,
    Array.toList_replicate, List.flatten_replicate_replicate, List.take_replicate,
    List.replicate_append_replicate, hr, Nat.div_add_mod']

@[simp] theorem size_constant (n : Nat) (b : UInt8) : (constant n b).size = n := by
  simp [ByteArray.size, data_constant]

end CopyBench.Bytes
