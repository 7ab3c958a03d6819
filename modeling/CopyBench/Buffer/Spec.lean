/-!
# Buffer specifications

What is asked of a buffer: its size, what it is used for, who shares it and
what its memory must be able to do.
-/

namespace CopyBench

/-! ## Bits of flags -/

/-- The buffer is copied from. -/
def Usage.transferSource : UInt32 := 1

/-- The buffer is copied to. -/
def Usage.transferDestination : UInt32 := 2

/-- The buffer is read and written by programs on the device. -/
def Usage.storage : UInt32 := 32

/-- The memory is the device's own. -/
def MemoryProperty.deviceLocal : UInt32 := 1

/-- The host can map the memory. -/
def MemoryProperty.hostVisible : UInt32 := 2

/-- What the host writes needs no flushing. -/
def MemoryProperty.hostCoherent : UInt32 := 4

/-! ## Specifications -/

/-- What is asked of a buffer. -/
structure BufferSpec where
  size : UInt64
  usage : UInt32
  /-- Whether one queue family owns the buffer at a time (0) or all share it (1). -/
  sharing : Int
  properties : UInt32
  name : Option String := none
deriving DecidableEq, Repr

namespace BufferSpec

/-- A buffer in the device's own memory. -/
def deviceLocal (size : UInt64) (usage : UInt32) : BufferSpec :=
  { size, usage, sharing := 0, properties := MemoryProperty.deviceLocal }

/-- A buffer that the host can map. -/
def hostVisible (size : UInt64) (usage : UInt32) : BufferSpec :=
  { size, usage, sharing := 0
    properties := MemoryProperty.hostVisible ||| MemoryProperty.hostCoherent }

/-- The buffer through which a fill uploads. -/
def staging (size : UInt64) : BufferSpec := hostVisible size Usage.transferSource

/-- The same buffer under a name. -/
def withName (spec : BufferSpec) (name : String) : BufferSpec := { spec with name := some name }

end BufferSpec

end CopyBench
