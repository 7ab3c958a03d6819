import CopyBench.Proofs.Machine.Steps
/-!
# Memories that keep what was written

A memory is secure when it starts with given octets and no copy that waits in a command buffer writes to
it. Whatever a pool does, and whatever is made, mapped or given back, leaves a secure memory as it is;
only a write to it, or a new copy into it, can touch it.
-/

namespace CopyBench.Machine

open CopyBench.Action

/-- Copies that wait write to buffers whose numbers are in use. -/
def Known (m : Machine) : Prop := ∀ b, ∀ copy ∈ m.work b, copy.destination ≤ m.lastHandle

/-- A memory that is large enough for `octets` starts with them, and no copy that waits writes there. -/
structure Secure (m : Machine) (memory : Handle) (octets : List UInt8) : Prop where
  starts : ∀ bytes, m.memories.get? memory = some bytes → octets.length ≤ bytes.size →
    bytes.data.toList.take octets.length = octets
  spared : ∀ b, ∀ copy ∈ m.work b, m.bindings.get? copy.destination ≠ some memory

/-- What is secure stays secure, but for the memories that are touched. -/
structure Leaves (m m' : Machine) (touched : List Handle) : Prop where
  lastHandle : m.lastHandle ≤ m'.lastHandle
  known : m.Known → m'.Known
  secure : ∀ memory ≤ m.lastHandle, memory ∉ touched → ∀ octets, m.Secure memory octets → m'.Secure memory octets

variable {m m' m₁ m₂ m₃ : Machine} {memory : Handle} {octets : List UInt8} {touched : List Handle}

theorem Leaves.refl (m : Machine) (touched : List Handle) : Leaves m m touched :=
  ⟨Nat.le_refl _, id, fun _ _ _ _ => id⟩

theorem Leaves.trans (h : Leaves m₁ m₂ touched) (h' : Leaves m₂ m₃ touched) : Leaves m₁ m₃ touched :=
  ⟨Nat.le_trans h.lastHandle h'.lastHandle, fun known => h'.known (h.known known),
    fun memory hle hmem octets secure =>
      h'.secure memory (Nat.le_trans hle h.lastHandle) hmem octets (h.secure memory hle hmem octets secure)⟩

/-- What is new need not be listed. -/
theorem Leaves.narrow {touched' : List Handle} (h : Leaves m m' touched)
    (new : ∀ o ∈ touched, o ∈ touched' ∨ m.lastHandle < o) : Leaves m m' touched' :=
  ⟨h.lastHandle, h.known, fun memory hle hmem => h.secure memory hle fun ht =>
    (new memory ht).elim hmem fun hlt => Nat.not_lt.2 hle hlt⟩

/-- A change that adds no copy, and neither writes nor binds a memory that exists. -/
theorem leaves_of (lastHandle : m.lastHandle ≤ m'.lastHandle)
    (work : ∀ b, ∀ copy ∈ m'.work b, copy ∈ m.work b)
    (memories : ∀ memory ≤ m.lastHandle, memory ∉ touched → ∀ bytes,
      m'.memories.get? memory = some bytes → m.memories.get? memory = some bytes)
    (bindings : ∀ memory ≤ m.lastHandle, memory ∉ touched → ∀ b,
      m'.bindings.get? b = some memory → m.bindings.get? b = some memory) : Leaves m m' touched := by
  refine ⟨lastHandle, fun known b copy hcopy => ?_, fun memory hle hmem octets secure => ?_⟩
  · exact Nat.le_trans (known b copy (work b copy hcopy)) lastHandle
  · exact ⟨fun bytes hbytes => secure.starts bytes (memories memory hle hmem bytes hbytes),
      fun b copy hcopy hbound => secure.spared b copy (work b copy hcopy) (bindings memory hle hmem _ hbound)⟩

/-- A change of neither memories, bindings nor command buffers. -/
theorem leaves_plain (lastHandle : m.lastHandle ≤ m'.lastHandle) (recorded : m'.recorded = m.recorded)
    (memories : m'.memories = m.memories) (bindings : m'.bindings = m.bindings) : Leaves m m' touched :=
  leaves_of lastHandle (fun b copy hcopy => by rwa [work, recorded] at hcopy)
    (fun _ _ _ _ h => memories ▸ h) (fun _ _ _ _ h => bindings ▸ h)

/-! ## Copies -/

/-- A copy writes the memory that its destination is bound to, and no other. -/
theorem memories_copied {copy : RecordedCopy} (h : m.copied copy = .ok m')
    (spared : m.bindings.get? copy.destination ≠ some memory) :
    m'.bindings = m.bindings ∧ m'.memories.get? memory = m.memories.get? memory := by
  obtain ⟨sourceMemory, targetMemory, source, target, hs, ht, hsource, htarget, hsFits, htFits⟩ :=
    canCopy_of_copied h
  rw [copied_eq hs ht hsource htarget hsFits htFits] at h
  cases h
  refine ⟨rfl, Table.get?_insert_of_ne _ _ ?_⟩
  rintro rfl
  exact spared ht

theorem memories_replay {copies : List RecordedCopy}
    (spared : ∀ copy ∈ copies, m.bindings.get? copy.destination ≠ some memory) :
    (replay copies m).1.memories.get? memory = m.memories.get? memory := by
  induction copies generalizing m with
  | nil => rfl
  | cons copy copies ih =>
    unfold replay
    cases h : m.copied copy with
    | error cause => rfl
    | ok m' =>
      obtain ⟨hbindings, hmemory⟩ := memories_copied h (spared copy List.mem_cons_self)
      refine (ih fun copy hmem => ?_).trans hmemory
      rw [hbindings]
      exact spared copy (List.mem_cons_of_mem _ hmem)

theorem leaves_handed {b : Handle} {fence : Option Handle} {cause : Option Panic}
    (run : m.executed b fence = (m', cause)) (queue : Handle) :
    Leaves m (m'.traced (.queueSubmit queue b fence) (handedReply cause)) touched := by
  obtain ⟨counters, hframe, -⟩ := executed_frame run
  have lastHandle : m'.lastHandle = m.lastHandle := (congrArg Machine.lastHandle hframe).trans rfl
  have same : SameMemory (replay (m.work b) m).1 m' := (sameMemory_executed ⟨rfl, rfl⟩ run).1
  have work : ∀ b', ∀ copy ∈ m'.work b', copy ∈ m.work b' := fun b' copy hcopy => by
    rw [work_executed run] at hcopy
    split at hcopy
    · cases hcopy
    · exact hcopy
  have bindings : m'.bindings = m.bindings := (congrArg Machine.bindings hframe).trans rfl
  refine ⟨Nat.le_of_eq lastHandle.symm, fun known b' copy hcopy => ?_, fun memory _ _ octets secure => ⟨?_, ?_⟩⟩
  · exact Nat.le_trans (known b' copy (work b' copy hcopy)) (Nat.le_of_eq lastHandle.symm)
  · intro bytes hbytes
    change m'.memories.get? memory = some bytes at hbytes
    -- None of the copies that ran writes to the memory, for none of those that waited does.
    rw [same.memories, memories_replay (secure.spared b)] at hbytes
    exact secure.starts bytes hbytes
  · intro b' copy hcopy
    change m'.bindings.get? copy.destination ≠ some memory
    rw [bindings]
    exact secure.spared b' copy (work b' copy hcopy)

/-- No step of a pool touches a secure memory. -/
theorem Step.leaves (step : Step m m') : Leaves m m' touched := by
  cases step with
  | told | named | refused | lost | ended | drained | waited | unfenced =>
    exact leaves_plain (Nat.le_refl _) rfl rfl rfl
  | fenced => exact leaves_plain (Nat.le_succ _) rfl rfl rfl
  | began b flags =>
    refine leaves_of (Nat.le_refl _) (fun b' copy hcopy => ?_) (fun _ _ _ _ h => h) (fun _ _ _ _ h => h)
    rw [work_began] at hcopy
    split at hcopy
    · cases hcopy
    · exact hcopy
  | handed queue run => exact leaves_handed run queue

theorem Steps.leaves (steps : Steps m m') : Leaves m m' touched :=
  Steps.preserve (I := fun m' => Leaves m m' touched) (fun _ _ step h => h.trans step.leaves) steps (.refl m _)

/-- Recording a copy touches the memory that it will write. -/
theorem leaves_queued (m : Machine) (b : Handle) {copy : RecordedCopy} (used : copy.destination ≤ m.lastHandle)
    (hmemory : m.bindings.get? copy.destination = some memory) : Leaves m (m.queued b copy) [memory] := by
  have work (b' : Handle) (copy' : RecordedCopy) (hcopy : copy' ∈ (m.queued b copy).work b') :
      copy' ∈ m.work b' ∨ copy' = copy := by
    rw [work_queued] at hcopy
    split at hcopy
    · exact (List.mem_append.1 hcopy).imp_right List.mem_singleton.1
    · exact .inl hcopy
  refine ⟨Nat.le_refl _, fun known b' copy' hcopy => ?_, fun other _ hother octets secure =>
    ⟨secure.starts, fun b' copy' hcopy => ?_⟩⟩
  · rcases work b' copy' hcopy with hold | rfl
    · exact known b' copy' hold
    · exact used
  · rcases work b' copy' hcopy with hold | rfl
    · exact secure.spared b' copy' hold
    · intro hbound
      change m.bindings.get? copy'.destination = some other at hbound
      rw [hmemory] at hbound
      exact hother (List.mem_singleton.2 (Option.some.inj hbound).symm)

/-! ## Calls on buffers and memories -/

theorem leaves_buffered (m : Machine) (size : UInt64) (usage : UInt32) (sharing : Int) :
    Leaves m (m.buffered size usage sharing) touched :=
  leaves_plain (Nat.le_succ _) rfl rfl rfl

theorem leaves_allocated (m : Machine) (size : UInt64) (memoryType : Nat) :
    Leaves m (m.allocated size memoryType) touched := by
  refine leaves_of (Nat.le_succ _) (fun _ _ h => h) (fun memory hle _ bytes hbytes => ?_) (fun _ _ _ _ h => h)
  have hne : memory ≠ m.lastHandle + 1 := fun heq => Nat.not_succ_le_self _ (heq ▸ hle)
  exact (Table.get?_insert_of_ne _ _ hne).symm.trans hbytes

theorem leaves_bound (m : Machine) (b memory : Handle) : Leaves m (m.bound b memory) [memory] := by
  refine leaves_of (Nat.le_refl _) (fun _ _ h => h) (fun _ _ _ _ h => h) fun other _ hother b' hbound => ?_
  change (m.bindings.insert b memory).get? b' = some other at hbound
  by_cases heq : b' = b
  · subst heq
    rw [Table.get?_insert_self] at hbound
    exact absurd (List.mem_singleton.2 (Option.some.inj hbound).symm) hother
  · rwa [Table.get?_insert_of_ne _ _ heq] at hbound

theorem leaves_mapped (m : Machine) (memory : Handle) (offset size : UInt64) :
    Leaves m (m.mapped memory offset size) touched :=
  leaves_plain (Nat.le_refl _) rfl rfl rfl

theorem leaves_unmapped (m : Machine) (memory : Handle) : Leaves m (m.unmapped memory) touched :=
  leaves_plain (Nat.le_refl _) rfl rfl rfl

theorem leaves_overwritten (m : Machine) (memory : Handle) (offset : Nat) (patch : ByteArray) :
    Leaves m (m.overwritten memory offset patch) [memory] := by
  unfold overwritten
  cases m.memories.get? memory with
  | none => exact .refl m _
  | some bytes =>
    refine leaves_of (Nat.le_refl _) (fun _ _ h => h) (fun other _ hother bytes' hbytes => ?_) (fun _ _ _ _ h => h)
    have hne : other ≠ memory := fun heq => hother (List.mem_singleton.2 heq)
    exact (Table.get?_insert_of_ne _ _ hne).symm.trans hbytes

theorem leaves_destroyed (m : Machine) (b : Handle) : Leaves m (m.destroyed b) touched := by
  refine leaves_of (Nat.le_refl _) (fun _ _ h => h) (fun _ _ _ _ h => h) fun _ _ _ _ hbound => ?_
  exact Table.get?_of_get?_erase hbound

theorem leaves_freed (m : Machine) (memory : Handle) : Leaves m (m.freed memory) touched := by
  refine leaves_of (Nat.le_refl _) (fun _ _ h => h) (fun _ _ _ _ hbytes => ?_) (fun _ _ _ _ h => h)
  exact Table.get?_of_get?_erase hbytes

end CopyBench.Machine
