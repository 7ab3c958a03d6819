import CopyBench.Buffer.MemoryType
import CopyBench.Buffer.Spec
import CopyBench.Machine.Device
/-!
# Bound buffers

A bound buffer is a buffer object with a memory of its own. Creating one either
succeeds or leaves nothing behind; every error of creation is a
misconfiguration. A range of its memory can be mapped, and is mapped exactly
when it lies in the allocation.
-/

namespace CopyBench

/-- A buffer object and the memory that is its alone. -/
structure BoundBuffer where
  handle : Handle
  memory : Handle
  spec : BufferSpec
  /-- The size of the memory. -/
  actualSize : UInt64
deriving DecidableEq, Repr

/-- The sum of two sizes, unless it takes more than 64 bits. -/
def sum? (a b : UInt64) : Option UInt64 := if a + b < a then none else some (a + b)

/-- The size that maps everything up to the end of the memory. -/
def wholeSize : UInt64 := 0xFFFFFFFFFFFFFFFF

/-- A sum that wraps around is less than its summands, and no other sum is. -/
theorem sum_lt_iff {a b : UInt64} : a + b < a ↔ UInt64.size ≤ a.toNat + b.toNat := by
  have ha := a.toNat_lt_size
  have hb := b.toNat_lt_size
  rw [UInt64.lt_iff_toNat_lt, UInt64.toNat_add]
  simp only [UInt64.size] at *
  omega

theorem sum?_eq_none_iff {a b : UInt64} : sum? a b = none ↔ UInt64.size ≤ a.toNat + b.toNat := by
  rw [← sum_lt_iff, sum?]
  split <;> simp [*]

theorem toNat_of_sum? {a b sum : UInt64} (h : sum? a b = some sum) : sum.toNat = a.toNat + b.toNat := by
  have small : a.toNat + b.toNat < UInt64.size := by
    rw [← Nat.not_le, ← sum?_eq_none_iff, h]
    simp
  unfold sum? at h
  split at h
  · cases h
  · cases h
    rw [UInt64.toNat_add, Nat.mod_eq_of_lt small]

/-- A range of a memory that is mapped. -/
structure MappedRange where
  memory : Handle
  offset : UInt64
  size : UInt64
deriving DecidableEq, Repr

namespace BoundBuffer

/-- Allocates memory of the first type that will do. -/
def allocate (device : Device) (size : UInt64) (typeBits required : UInt32) :
    Action Machine Handle :=
  match MemoryType.find? device.memoryTypes typeBits required with
  | none => Action.fail (.configuration (.noMemoryType typeBits required))
  | some memoryType =>
    (Machine.allocateMemory size memoryType).orFatal Entrypoint.allocateMemory.symbol

/-- Gives a buffer its debug name. A name that cannot be attached is only warned about. -/
def attachName (device : Device) (handle : Handle) (name : String) : Action Machine Unit := do
  match ← device.nameObject Device.bufferType handle name with
  | .ok () => pure ()
  | .error code =>
    log .warn ("failed to name buffer " ++ name ++ ": " ++
      (Error.vulkan Entrypoint.nameObject.symbol code).message)

/-- Creates a buffer and binds it to memory of its own. -/
def create (device : Device) (spec : BufferSpec) : Action Machine BoundBuffer := do
  let handle ← (Machine.createBuffer spec.size spec.usage spec.sharing).orFatal
    Entrypoint.createBuffer.symbol
  let (size, typeBits) ← Machine.memoryRequirement handle
  let memory ← (allocate device size typeBits spec.properties).onFailure
    (Machine.destroyBuffer handle)
  ((Machine.bindBufferMemory handle memory).orFatal Entrypoint.bindBufferMemory.symbol).onFailure do
    Machine.destroyBuffer handle
    Machine.freeMemory memory
  match spec.name with
  | none => pure ()
  | some name => attachName device handle name
  log .trace ("Created buffer of " ++ toString spec.size.toNat ++ " bytes (" ++
    toString size.toNat ++ " allocated), usage " ++
    Flags.describe Flags.bufferUsage spec.usage ++ ", memory " ++
    Flags.describe Flags.memoryProperties spec.properties)
  pure { handle, memory, spec, actualSize := size }

/-- Destroys a buffer and frees its memory. -/
def release (buffer : BoundBuffer) : Action Machine Unit := do
  Machine.destroyBuffer buffer.handle
  Machine.freeMemory buffer.memory

/-- The number of bytes that mapping `size` bytes at `offset` asks for: all up
to the end of the memory when `size` is the whole size. -/
def mappedSize (buffer : BoundBuffer) (offset size : UInt64) : UInt64 :=
  if size = wholeSize then
    if offset ≤ buffer.actualSize then buffer.actualSize - offset else 0
  else size

/-- Whether `size` bytes at `offset` lie in the memory. An end that no number of
64 bits can say lies in no memory. -/
def covers (buffer : BoundBuffer) (offset size : UInt64) : Bool :=
  (sum? offset size).any (· ≤ buffer.actualSize)

/-- Maps a range. Nothing reaches the device when the range does not lie in the memory. -/
def map (buffer : BoundBuffer) (offset size : UInt64) : Action Machine MappedRange :=
  let size := buffer.mappedSize offset size
  if buffer.covers offset size then do
    (Machine.mapMemory buffer.memory offset size).orOperational Entrypoint.mapMemory.symbol
    pure { memory := buffer.memory, offset, size }
  else Action.fail (.mapRange offset size buffer.actualSize)

theorem covers_iff {buffer : BoundBuffer} {offset size : UInt64} :
    buffer.covers offset size = true ↔ offset.toNat + size.toNat ≤ buffer.actualSize.toNat := by
  unfold covers
  cases h : sum? offset size with
  | none =>
    have beyond := sum?_eq_none_iff.1 h
    have small := buffer.actualSize.toNat_lt_size
    simp only [Option.any_none, Bool.false_eq_true, false_iff]
    omega
  | some sum =>
    rw [Option.any_some, decide_eq_true_iff, UInt64.le_iff_toNat_le, toNat_of_sum? h]

end BoundBuffer

namespace MappedRange

/-- The bytes of a mapped range. -/
def read (range : MappedRange) : Action Machine ByteArray := do
  let bytes ← Machine.contents range.memory
  pure (Bytes.slice bytes range.offset.toNat range.size.toNat)

/-- Writes a mapped range from its start on. What `bytes` holds beyond the range is left out. -/
def write (range : MappedRange) (bytes : ByteArray) : Action Machine Unit :=
  Machine.overwrite range.memory range.offset.toNat (bytes.extract 0 range.size.toNat)

/-- Ends the mapping. -/
def unmap (range : MappedRange) : Action Machine Unit := Machine.unmapMemory range.memory

end MappedRange

end CopyBench
