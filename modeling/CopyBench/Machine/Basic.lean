import CopyBench.Bytes
import CopyBench.Console
import CopyBench.Machine.Schedule
import CopyBench.Machine.Trace
import CopyBench.Table
/-!
# The machine

The machine is the host-side device that all buffers and command buffers live
on. Its memory is plain bytes, and a recorded copy moves bytes when its command
buffer is submitted. It numbers the objects it makes 1, 2, 3, …, counts what it
does, fails the calls that its schedule names, and keeps a trace of all calls.
-/

namespace CopyBench

/-- How the memory of a machine is laid out. -/
structure MemoryProfile where
  /-- The property flags of the memory types: device-local, host-visible and both. -/
  types : List UInt32 := [1, 6, 7]
  /-- The memory types that a buffer may use. -/
  typeBits : UInt32 := 7
  /-- What every buffer needs beyond its rounded size. -/
  extra : UInt64 := 0

/-- A copy that waits in a command buffer. -/
structure RecordedCopy where
  source : Handle
  destination : Handle
  region : Region
deriving DecidableEq, Repr

/-- What a machine has done so far. -/
structure Counters where
  begins : Nat := 0
  ends : Nat := 0
  submits : Nat := 0
  fencedSubmits : Nat := 0
  failedSubmits : Nat := 0
  fencesCreated : Nat := 0
  fencesDestroyed : Nat := 0
  queueIdles : Nat := 0
  maps : Nat := 0
  unmaps : Nat := 0
  copiesExecuted : Nat := 0
  buffersCreated : Nat := 0
  buffersDestroyed : Nat := 0
  allocations : Nat := 0
  frees : Nat := 0
  poolsDestroyed : Nat := 0
deriving DecidableEq, Repr

/-- The state of a machine. -/
structure Machine where
  profile : MemoryProfile := {}
  schedule : Schedule := Schedule.reliable
  /-- How often each entrypoint was called. -/
  calls : Table Entrypoint Nat := {}
  /-- The number of the object made last. -/
  lastHandle : Handle := 0
  bufferSizes : Table Handle UInt64 := {}
  /-- The memory that each bound buffer is bound to. -/
  bindings : Table Handle Handle := {}
  memories : Table Handle ByteArray := {}
  /-- The copies that wait in each command buffer, in recording order. -/
  recorded : Table Handle (List RecordedCopy) := {}
  liveFences : List Handle := []
  /-- Command buffers whose submission always loses the device. -/
  lostSubmits : List Handle := []
  /-- Whether every wait for a fence loses the device. -/
  lostWaits : Bool := false
  /-- Whether the entry to the instance calls has been loaded. -/
  loaderLoaded : Bool := true
  counters : Counters := {}
  trace : Array Event := #[]
  notes : Array Note := #[]

instance : Console Machine := ⟨fun note m => { m with notes := m.notes.push note }⟩

namespace Machine

/-- The alignment of every memory requirement. -/
def alignment : UInt64 := 256

/-- The least multiple of the alignment that holds `size` bytes. -/
def roundUp (size : UInt64) : UInt64 :=
  (if size % alignment = 0 then size / alignment else size / alignment + 1) * alignment

/-- How much memory a buffer of `size` bytes needs. -/
def requirement (profile : MemoryProfile) (size : UInt64) : UInt64 :=
  roundUp size + profile.extra

/-- The octet that fresh memory holds. -/
def freshByte : UInt8 := 0xCD

/-- How often an entrypoint was called. -/
def callCount (m : Machine) (point : Entrypoint) : Nat := (m.calls.get? point).getD 0

/-- The number of allocations that are live. -/
def liveMemoryCount (m : Machine) : Nat := m.memories.size

/-- Why a copy cannot be executed, or the machine after it. -/
def copied (m : Machine) (copy : RecordedCopy) : Except Panic Machine :=
  match m.bindings.get? copy.source, m.bindings.get? copy.destination with
  | some sourceMemory, some destinationMemory =>
    match m.memories.get? sourceMemory, m.memories.get? destinationMemory with
    | some source, some destination =>
      let size := copy.region.size.toNat
      if Bytes.fits source.size copy.region.sourceOffset.toNat size &&
          Bytes.fits destination.size copy.region.destinationOffset.toNat size then
        let target := Bytes.transfer source copy.region.sourceOffset.toNat
          destination copy.region.destinationOffset.toNat size
        .ok { m with
          memories := m.memories.insert destinationMemory target
          counters := { m.counters with copiesExecuted := m.counters.copiesExecuted + 1 } }
      else .error .copyOutOfRange
    | _, _ => .error .copyOutOfRange
  | _, _ => .error .copyBetweenUnboundBuffers

end Machine

end CopyBench
