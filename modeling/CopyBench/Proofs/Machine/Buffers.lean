import CopyBench.Buffer.Basic
import CopyBench.Proofs.Machine.Answers
/-!
# What calls on buffers answer

One equation for each call on buffers and memories, as for the calls on command buffers. The calls
that take something back cannot fail.
-/

namespace CopyBench.Machine

open CopyBench.Action

/-- The machine after a buffer was made. -/
def buffered (m : Machine) (size : UInt64) (usage : UInt32) (sharing : Int) : Machine :=
  m.answer .createBuffer (.createBuffer size usage sharing) (.handle (m.lastHandle + 1)) fun m =>
    { m with
      lastHandle := m.lastHandle + 1
      bufferSizes := m.bufferSizes.insert (m.lastHandle + 1) size
      counters := { m.counters with buffersCreated := m.counters.buffersCreated + 1 } }

/-- The machine after memory was allocated. -/
def allocated (m : Machine) (size : UInt64) (memoryType : Nat) : Machine :=
  m.answer .allocateMemory (.allocateMemory size memoryType) (.handle (m.lastHandle + 1)) fun m =>
    { m with
      lastHandle := m.lastHandle + 1
      memories := m.memories.insert (m.lastHandle + 1) (Bytes.constant size.toNat freshByte)
      counters := { m.counters with allocations := m.counters.allocations + 1 } }

/-- The machine after a buffer was bound. -/
def bound (m : Machine) (buffer memory : Handle) : Machine :=
  m.answer .bindBufferMemory (.bindBufferMemory buffer memory) .done fun m =>
    { m with bindings := m.bindings.insert buffer memory }

/-- The machine with one more mapping counted. -/
def mapping (m : Machine) : Machine :=
  { m with counters := { m.counters with maps := m.counters.maps + 1 } }

/-- The machine after a range was mapped. -/
def mapped (m : Machine) (memory : Handle) (offset size : UInt64) : Machine :=
  m.answer .mapMemory (.mapMemory memory offset size) .done mapping

/-- The machine after a mapping ended. -/
def unmapped (m : Machine) (memory : Handle) : Machine :=
  traced { m with counters := { m.counters with unmaps := m.counters.unmaps + 1 } }
    (.unmapMemory memory) .done

/-- The machine after a buffer was destroyed. -/
def destroyed (m : Machine) (buffer : Handle) : Machine :=
  traced { m with
    bindings := m.bindings.erase buffer
    bufferSizes := m.bufferSizes.erase buffer
    counters := { m.counters with buffersDestroyed := m.counters.buffersDestroyed + 1 } }
    (.destroyBuffer buffer) .done

/-- The machine after a memory was freed. -/
def freed (m : Machine) (memory : Handle) : Machine :=
  traced { m with
    memories := m.memories.erase memory
    counters := { m.counters with frees := m.counters.frees + 1 } }
    (.freeMemory memory) .done

/-- The machine after a name was attached. -/
def named (m : Machine) (objectType : UInt32) (handle : Handle) (name : String) : Machine :=
  m.answer .nameObject (.nameObject objectType handle name) .done id

/-- The machine with `patch` written into a memory, if it is live. -/
def overwritten (m : Machine) (memory : Handle) (offset : Nat) (patch : ByteArray) : Machine :=
  match m.memories.get? memory with
  | some bytes => { m with memories := m.memories.insert memory (Bytes.splice bytes offset patch) }
  | none => m

variable (m : Machine)

theorem ends_createBuffer (size : UInt64) (usage : UInt32) (sharing : Int)
    (Q : Except Failure (Except ResultCode Handle) → Machine → Prop) :
    Ends (createBuffer size usage sharing) m Q ↔
      match m.fault .createBuffer with
      | some code => Q (.ok (.error code))
          (m.refuse .createBuffer (.createBuffer size usage sharing) code)
      | none => Q (.ok (.ok (m.lastHandle + 1))) (m.buffered size usage sharing) :=
  ends_make ..

theorem ends_allocateMemory (size : UInt64) (memoryType : Nat)
    (Q : Except Failure (Except ResultCode Handle) → Machine → Prop) :
    Ends (allocateMemory size memoryType) m Q ↔
      match m.fault .allocateMemory with
      | some code => Q (.ok (.error code))
          (m.refuse .allocateMemory (.allocateMemory size memoryType) code)
      | none => Q (.ok (.ok (m.lastHandle + 1))) (m.allocated size memoryType) :=
  ends_make ..

theorem ends_bindBufferMemory (buffer memory : Handle)
    (Q : Except Failure (Except ResultCode Unit) → Machine → Prop) :
    Ends (bindBufferMemory buffer memory) m Q ↔
      match m.fault .bindBufferMemory with
      | some code => Q (.ok (.error code))
          (m.refuse .bindBufferMemory (.bindBufferMemory buffer memory) code)
      | none => Q (.ok (.ok ())) (m.bound buffer memory) :=
  ends_affect ..

theorem ends_nameObject (objectType : UInt32) (handle : Handle) (name : String)
    (Q : Except Failure (Except ResultCode Unit) → Machine → Prop) :
    Ends (nameObject objectType handle name) m Q ↔
      match m.fault .nameObject with
      | some code => Q (.ok (.error code))
          (m.refuse .nameObject (.nameObject objectType handle name) code)
      | none => Q (.ok (.ok ())) (m.named objectType handle name) :=
  ends_affect ..

/-- Only live memory can be mapped. -/
theorem ends_mapMemory (memory : Handle) (offset size : UInt64)
    (Q : Except Failure (Except ResultCode Unit) → Machine → Prop) :
    Ends (mapMemory memory offset size) m Q ↔
      match m.fault .mapMemory with
      | some code => Q (.ok (.error code))
          (m.refuse .mapMemory (.mapMemory memory offset size) code)
      | none =>
        if m.memories.contains memory then Q (.ok (.ok ())) (m.mapped memory offset size)
        else Q (.ok (.error .mapFailed))
          (m.mapping.refuse .mapMemory (.mapMemory memory offset size) .mapFailed) := by
  rw [mapMemory, ends_invoke]
  cases m.fault .mapMemory with
  | some code => exact Iff.rfl
  | none =>
    dsimp only
    rw [ends_bind, ends_count]
    dsimp only
    rw [ends_bind, ends_get]
    dsimp only
    rw [ends_pure]
    by_cases h : m.memories.contains memory = true
    · rw [if_pos h, if_pos (show (m.tallied .mapMemory).memories.contains memory = true from h)]
      exact Iff.rfl
    · rw [if_neg h, if_neg (show ¬(m.tallied .mapMemory).memories.contains memory = true from h)]
      exact Iff.rfl

@[simp] theorem ends_memoryRequirement (buffer : Handle)
    (Q : Except Failure (UInt64 × UInt32) → Machine → Prop) :
    Ends (memoryRequirement buffer) m Q ↔
      Q (.ok (requirement m.profile ((m.bufferSizes.get? buffer).getD 0), m.profile.typeBits)) m :=
  Iff.rfl

@[simp] theorem ends_unmapMemory (memory : Handle) (Q : Except Failure Unit → Machine → Prop) :
    Ends (unmapMemory memory) m Q ↔ Q (.ok ()) (m.unmapped memory) := Iff.rfl

@[simp] theorem ends_destroyBuffer (buffer : Handle) (Q : Except Failure Unit → Machine → Prop) :
    Ends (destroyBuffer buffer) m Q ↔ Q (.ok ()) (m.destroyed buffer) := Iff.rfl

@[simp] theorem ends_freeMemory (memory : Handle) (Q : Except Failure Unit → Machine → Prop) :
    Ends (freeMemory memory) m Q ↔ Q (.ok ()) (m.freed memory) := Iff.rfl

@[simp] theorem ends_contents (memory : Handle) (Q : Except Failure ByteArray → Machine → Prop) :
    Ends (contents memory) m Q ↔ Q (.ok ((m.memories.get? memory).getD ByteArray.empty)) m := Iff.rfl

@[simp] theorem ends_overwrite (memory : Handle) (offset : Nat) (patch : ByteArray)
    (Q : Except Failure Unit → Machine → Prop) :
    Ends (overwrite memory offset patch) m Q ↔ Q (.ok ()) (m.overwritten memory offset patch) := Iff.rfl

/-! ## What the calls add to the trace -/

section Trace

variable (b memory : Handle) (size offset : UInt64) (usage : UInt32) (sharing : Int) (memoryType : Nat)

@[simp] theorem trace_buffered : (m.buffered size usage sharing).trace =
    m.trace.push ⟨.createBuffer size usage sharing, .handle (m.lastHandle + 1)⟩ := rfl

@[simp] theorem trace_allocated : (m.allocated size memoryType).trace =
    m.trace.push ⟨.allocateMemory size memoryType, .handle (m.lastHandle + 1)⟩ := rfl

@[simp] theorem trace_bound :
    (m.bound b memory).trace = m.trace.push ⟨.bindBufferMemory b memory, .done⟩ := rfl

@[simp] theorem trace_mapped :
    (m.mapped memory offset size).trace = m.trace.push ⟨.mapMemory memory offset size, .done⟩ := rfl

@[simp] theorem trace_unmapped : (m.unmapped memory).trace = m.trace.push ⟨.unmapMemory memory, .done⟩ := rfl

@[simp] theorem trace_destroyed : (m.destroyed b).trace = m.trace.push ⟨.destroyBuffer b, .done⟩ := rfl

@[simp] theorem trace_freed : (m.freed memory).trace = m.trace.push ⟨.freeMemory memory, .done⟩ := rfl

@[simp] theorem lastHandle_buffered : (m.buffered size usage sharing).lastHandle = m.lastHandle + 1 := rfl

end Trace

end CopyBench.Machine
