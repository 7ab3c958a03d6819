import CopyBench.Proofs.Machine.Buffers
import Mathlib.Data.List.Basic
/-!
# Machines that fail nothing

On a reliable machine every call on a buffer does what it is for. It touches the buffer and the
memory that it names, and leaves all others as they were.
-/

namespace CopyBench

/-- The numbers of a buffer and of its memory. -/
def BoundBuffer.objects (b : BoundBuffer) : List Handle := [b.handle, b.memory]

theorem BoundBuffer.memory_mem_objects (b : BoundBuffer) : b.memory ∈ b.objects :=
  List.mem_cons_of_mem _ List.mem_cons_self

namespace Machine

open CopyBench.Action

/-- No call fails and no device is lost. -/
structure Reliable (m : Machine) : Prop where
  schedule : ∀ point n, m.schedule point n = none
  lostSubmits : m.lostSubmits = []
  lostWaits : m.lostWaits = false

theorem Reliable.fault {m : Machine} (h : m.Reliable) (point : Entrypoint) : m.fault point = none :=
  h.schedule ..

theorem Reliable.not_fault {m : Machine} {point : Entrypoint} {code : ResultCode} (h : m.Reliable) :
    m.fault point ≠ some code := by
  rw [h.fault]
  exact nofun

/-- The same memory layout and the same failures. -/
structure SameSetting (m m' : Machine) : Prop where
  profile : m'.profile = m.profile
  schedule : m'.schedule = m.schedule
  lostSubmits : m'.lostSubmits = m.lostSubmits
  lostWaits : m'.lostWaits = m.lostWaits

/-- What exists and is not touched stays bound as it was, with the same bytes. -/
structure Keeps (m m' : Machine) (touched : List Handle) : Prop where
  bindings : ∀ h ≤ m.lastHandle, h ∉ touched → m'.bindings.get? h = m.bindings.get? h
  memories : ∀ h ≤ m.lastHandle, h ∉ touched → m'.memories.get? h = m.memories.get? h
  lastHandle : m.lastHandle ≤ m'.lastHandle

/-- A change to some buffers and memories only. -/
structure Local (m m' : Machine) (touched : List Handle) : Prop extends
    SameSetting m m', Keeps m m' touched where
  recorded : m'.recorded = m.recorded
  copiesExecuted : m'.counters.copiesExecuted = m.counters.copiesExecuted

section Relations

variable {m m₁ m₂ m₃ : Machine} {touched : List Handle}

theorem Reliable.of_same (h : m₁.Reliable) (same : SameSetting m₁ m₂) : m₂.Reliable := by
  refine ⟨fun point n => ?_, ?_, ?_⟩
  · rw [same.schedule]
    exact h.schedule point n
  · rw [same.lostSubmits]
    exact h.lostSubmits
  · rw [same.lostWaits]
    exact h.lostWaits

theorem SameSetting.trans (h : SameSetting m₁ m₂) (h' : SameSetting m₂ m₃) : SameSetting m₁ m₃ :=
  ⟨h'.profile.trans h.profile, h'.schedule.trans h.schedule, h'.lostSubmits.trans h.lostSubmits,
    h'.lostWaits.trans h.lostWaits⟩

theorem Keeps.trans (h : Keeps m₁ m₂ touched) (h' : Keeps m₂ m₃ touched) : Keeps m₁ m₃ touched := by
  refine ⟨fun o ho hnot => ?_, fun o ho hnot => ?_, Nat.le_trans h.lastHandle h'.lastHandle⟩
  · rw [h'.bindings o (Nat.le_trans ho h.lastHandle) hnot, h.bindings o ho hnot]
  · rw [h'.memories o (Nat.le_trans ho h.lastHandle) hnot, h.memories o ho hnot]

theorem Local.trans (h : Local m₁ m₂ touched) (h' : Local m₂ m₃ touched) : Local m₁ m₃ touched :=
  ⟨h.toSameSetting.trans h'.toSameSetting, h.toKeeps.trans h'.toKeeps, h'.recorded.trans h.recorded,
    h'.copiesExecuted.trans h.copiesExecuted⟩

/-- What is new need not be listed. -/
theorem Keeps.narrow {touched' : List Handle} (h : Keeps m₁ m₂ touched)
    (sub : ∀ o ∈ touched, o ∈ touched' ∨ m₁.lastHandle < o) : Keeps m₁ m₂ touched' := by
  have hnot (o : Handle) (ho : o ≤ m₁.lastHandle) (h' : o ∉ touched') : o ∉ touched := by
    intro hmem
    rcases sub o hmem with hold | hnew
    · exact h' hold
    · exact Nat.not_lt.2 ho hnew
  exact ⟨fun o ho h' => h.bindings o ho (hnot o ho h'), fun o ho h' => h.memories o ho (hnot o ho h'),
    h.lastHandle⟩

theorem Keeps.weaken {touched' : List Handle} (h : Keeps m₁ m₂ touched) (sub : touched ⊆ touched') :
    Keeps m₁ m₂ touched' :=
  h.narrow fun _ hmem => .inl (sub hmem)

theorem Local.narrow {touched' : List Handle} (h : Local m₁ m₂ touched)
    (sub : ∀ o ∈ touched, o ∈ touched' ∨ m₁.lastHandle < o) : Local m₁ m₂ touched' :=
  ⟨h.toSameSetting, h.toKeeps.narrow sub, h.recorded, h.copiesExecuted⟩

theorem Local.weaken {touched' : List Handle} (h : Local m₁ m₂ touched) (sub : touched ⊆ touched') :
    Local m₁ m₂ touched' :=
  h.narrow fun _ hmem => .inl (sub hmem)

/-- A step that touches neither buffers nor memories. -/
theorem local_of_same (profile : m₂.profile = m₁.profile) (schedule : m₂.schedule = m₁.schedule)
    (lostSubmits : m₂.lostSubmits = m₁.lostSubmits) (lostWaits : m₂.lostWaits = m₁.lostWaits)
    (bindings : m₂.bindings = m₁.bindings) (memories : m₂.memories = m₁.memories)
    (lastHandle : m₁.lastHandle ≤ m₂.lastHandle) (recorded : m₂.recorded = m₁.recorded)
    (copiesExecuted : m₂.counters.copiesExecuted = m₁.counters.copiesExecuted) : Local m₁ m₂ [] :=
  ⟨⟨profile, schedule, lostSubmits, lostWaits⟩,
    ⟨fun _ _ _ => by rw [bindings], fun _ _ _ => by rw [memories], lastHandle⟩, recorded, copiesExecuted⟩

end Relations

/-! ## Bytes of a buffer -/

/-- A buffer is bound to memory that holds `bytes`. -/
structure Stored (m : Machine) (b : BoundBuffer) (bytes : List UInt8) : Prop where
  binding : m.bindings.get? b.handle = some b.memory
  memory : ∃ array, m.memories.get? b.memory = some array ∧ array.data.toList = bytes
  length : bytes.length = b.actualSize.toNat
  handle_le : b.handle ≤ m.lastHandle
  memory_le : b.memory ≤ m.lastHandle

/-- What is not touched keeps its bytes. -/
theorem Stored.kept {m m' : Machine} {b : BoundBuffer} {bytes : List UInt8} {touched : List Handle}
    (h : m.Stored b bytes) (keeps : Keeps m m' touched) (apart : b.objects.Disjoint touched) :
    m'.Stored b bytes := by
  have hhandle : b.handle ∉ touched := apart (by simp [BoundBuffer.objects])
  have hmemory : b.memory ∉ touched := apart (by simp [BoundBuffer.objects])
  refine ⟨?_, ?_, h.length, Nat.le_trans h.handle_le keeps.lastHandle,
    Nat.le_trans h.memory_le keeps.lastHandle⟩
  · rw [keeps.bindings _ h.handle_le hhandle]
    exact h.binding
  · rw [keeps.memories _ h.memory_le hmemory]
    exact h.memory

end Machine

end CopyBench
