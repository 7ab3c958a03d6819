import CopyBench.Proofs.Buffer.Uploads
import CopyBench.Proofs.Buffer.Window
/-!
# Buffers have the memory they say

A memory keeps the size it was allocated with, whatever is copied into it and whatever is written through
a mapped range: a copy that does not fit is not executed, and a range that is open lies in its memory. So
after every run the memory of each buffer, and of each staging buffer that is kept, has as many bytes as
the buffer says, and mapping any range of it is exact.
-/

namespace CopyBench

open CopyBench.Action

namespace Machine

variable {m m' m₁ m₂ m₃ : Machine} {memory : Handle}

/-- The memories that exist keep their sizes for as long as they are live. -/
structure SameExtents (m m' : Machine) : Prop where
  lastHandle : m.lastHandle ≤ m'.lastHandle
  sizes : ∀ memory ≤ m.lastHandle, ∀ bytes, m'.memories.get? memory = some bytes →
    ∃ old, m.memories.get? memory = some old ∧ old.size = bytes.size

theorem SameExtents.refl (m : Machine) : SameExtents m m :=
  ⟨Nat.le_refl _, fun _ _ bytes hbytes => ⟨bytes, hbytes, rfl⟩⟩

theorem SameExtents.trans (h : SameExtents m₁ m₂) (h' : SameExtents m₂ m₃) : SameExtents m₁ m₃ := by
  refine ⟨Nat.le_trans h.lastHandle h'.lastHandle, fun memory hle bytes hbytes => ?_⟩
  obtain ⟨bytes₂, hbytes₂, size₂⟩ := h'.sizes memory (Nat.le_trans hle h.lastHandle) bytes hbytes
  obtain ⟨bytes₁, hbytes₁, size₁⟩ := h.sizes memory hle bytes₂ hbytes₂
  exact ⟨bytes₁, hbytes₁, size₁.trans size₂⟩

theorem sameExtents_of_memories (lastHandle : m.lastHandle ≤ m'.lastHandle) (memories : m'.memories = m.memories) :
    SameExtents m m' :=
  ⟨lastHandle, fun _ _ bytes hbytes => ⟨bytes, memories ▸ hbytes, rfl⟩⟩

/-! ## Steps of a pool and copies -/

theorem Step.extents (step : Step m m') : SameExtents m m' := by
  cases step with
  | told | named | refused | lost | began | ended | drained | waited | unfenced =>
    exact sameExtents_of_memories (Nat.le_refl _) rfl
  | fenced => exact sameExtents_of_memories (Nat.le_succ _) rfl
  | @handed m' b fence cause queue run =>
    obtain ⟨counters, frame, -⟩ := executed_frame run
    have lastHandle : m'.lastHandle = m.lastHandle := (congrArg Machine.lastHandle frame).trans rfl
    have same : SameMemory (replay (m.work b) m).1 m' := (sameMemory_executed ⟨rfl, rfl⟩ run).1
    refine ⟨Nat.le_of_eq lastHandle.symm, fun memory _ bytes hbytes => ?_⟩
    change m'.memories.get? memory = some bytes at hbytes
    have sizes := (sameShape_replay (m.work b) m).sizes memory
    rw [← same.memories, hbytes] at sizes
    exact Option.map_eq_some_iff.1 sizes.symm

theorem Steps.extents (steps : Steps m m') : SameExtents m m' :=
  Steps.preserve (I := fun m' => SameExtents m m') (fun _ _ step h => h.trans step.extents) steps (.refl m)

theorem CopySteps.extents {copy : RecordedCopy} (steps : m.CopySteps copy m') : SameExtents m m' := by
  obtain steps | ⟨m₁, b, before, -, after⟩ := steps
  · exact steps.extents
  · have queued : SameExtents m₁ (m₁.queued b copy) := sameExtents_of_memories (Nat.le_refl _) rfl
    exact (before.extents.trans queued).trans after.extents

theorem Annotated.extents (h : Annotated m m') : SameExtents m m' := by
  rw [h.frame]
  exact sameExtents_of_memories (Nat.le_refl _) rfl

/-! ## Calls on buffers and memories -/

theorem extents_buffered (m : Machine) (size : UInt64) (usage : UInt32) (sharing : Int) :
    SameExtents m (m.buffered size usage sharing) :=
  sameExtents_of_memories (Nat.le_succ _) rfl

theorem extents_allocated (m : Machine) (size : UInt64) (memoryType : Nat) :
    SameExtents m (m.allocated size memoryType) := by
  refine ⟨Nat.le_succ _, fun memory hle bytes hbytes => ⟨bytes, ?_, rfl⟩⟩
  have hne : memory ≠ m.lastHandle + 1 := fun heq => Nat.not_succ_le_self _ (heq ▸ hle)
  exact (Table.get?_insert_of_ne _ _ hne).symm.trans hbytes

theorem extents_bound (m : Machine) (b memory : Handle) : SameExtents m (m.bound b memory) :=
  sameExtents_of_memories (Nat.le_refl _) rfl

theorem extents_mapped (m : Machine) (memory : Handle) (offset size : UInt64) :
    SameExtents m (m.mapped memory offset size) :=
  sameExtents_of_memories (Nat.le_refl _) rfl

theorem extents_unmapped (m : Machine) (memory : Handle) : SameExtents m (m.unmapped memory) :=
  sameExtents_of_memories (Nat.le_refl _) rfl

/-- A patch that fits leaves a memory as large as it was. -/
theorem extents_overwritten {offset : Nat} {patch : ByteArray}
    (fits : ∀ bytes, m.memories.get? memory = some bytes → offset + patch.size ≤ bytes.size) :
    SameExtents m (m.overwritten memory offset patch) := by
  unfold overwritten
  cases live : m.memories.get? memory with
  | none => exact .refl m
  | some bytes =>
    refine ⟨Nat.le_refl _, fun other _ bytes' hbytes' => ?_⟩
    by_cases heq : other = memory
    · subst heq
      cases (Table.get?_insert_self ..).symm.trans hbytes'
      exact ⟨bytes, live, (Bytes.size_splice (fits bytes live)).symm⟩
    · exact ⟨bytes', (Table.get?_insert_of_ne _ _ heq).symm.trans hbytes', rfl⟩

theorem extents_destroyed (m : Machine) (b : Handle) : SameExtents m (m.destroyed b) :=
  sameExtents_of_memories (Nat.le_refl _) rfl

theorem extents_freed (m : Machine) (memory : Handle) : SameExtents m (m.freed memory) :=
  ⟨Nat.le_refl _, fun _ _ bytes hbytes => ⟨bytes, Table.get?_of_get?_erase hbytes, rfl⟩⟩

theorem extents_without (m : Machine) (parts : List BoundBuffer) : SameExtents m (m.without parts) := by
  induction parts generalizing m with
  | nil => exact .refl m
  | cons b parts ih => exact ((extents_destroyed ..).trans (extents_freed ..)).trans (ih _)

end Machine

open Machine (SameExtents)

variable {m m' : Machine}

/-! ## Buffers -/

namespace BoundBuffer

variable {b : BoundBuffer} {spec : BufferSpec}

/-- The memory of the buffer, as long as it is live, has as many bytes as the buffer says. -/
def Sized (b : BoundBuffer) (m : Machine) : Prop :=
  ∀ bytes, m.memories.get? b.memory = some bytes → bytes.size = b.actualSize.toNat

theorem Sized.kept (h : b.Sized m) (used : b.memory ≤ m.lastHandle) (extents : SameExtents m m') : b.Sized m' := by
  intro bytes hbytes
  obtain ⟨old, hold, size⟩ := extents.sizes _ used bytes hbytes
  exact size.symm.trans (h old hold)

theorem sized_of_stored {bytes : List UInt8} (stored : m.Stored b bytes) : b.Sized m := by
  intro array hget
  obtain ⟨array', hget', octets⟩ := stored.memory
  cases hget.symm.trans hget'
  rw [← stored.length, ← octets, Array.length_toList, ByteArray.size_data]

theorem Making.extents {r : Except Failure BoundBuffer} (making : Making m spec r m') : SameExtents m m' := by
  have buffered := m.extents_buffered spec.size spec.usage spec.sharing
  cases making with
  | refused noted => exact noted.extents
  | homeless noted => exact (buffered.trans noted.extents).trans (Machine.extents_destroyed ..)
  | @unbound _ _ size memoryType noted =>
    have allocated := buffered.trans (Machine.extents_allocated _ size memoryType)
    exact ((allocated.trans noted.extents).trans (Machine.extents_destroyed ..)).trans (Machine.extents_freed ..)
  | @made _ size memoryType noted =>
    have allocated := buffered.trans (Machine.extents_allocated _ size memoryType)
    exact (allocated.trans (Machine.extents_bound _ _ (m.lastHandle + 2))).trans noted.extents

theorem Making.sized (making : Making m spec (.ok b) m') : b.Sized m' := sized_of_stored making.stored.1

/-- Writing through a range of a buffer that has as much memory as it says, and that the range lies in. -/
theorem extents_written (sized : b.Sized m) {offset size : UInt64} {patch : ByteArray}
    (fits : offset.toNat + patch.size ≤ b.actualSize.toNat) : SameExtents m (written m b offset size patch) := by
  have mapped := m.extents_mapped b.memory offset size
  refine (mapped.trans (Machine.extents_overwritten fun bytes hbytes => ?_)).trans (Machine.extents_unmapped ..)
  rw [sized bytes hbytes]
  exact fits

end BoundBuffer

namespace StagedBuffer

variable {b b' : StagedBuffer} {contents : Contents} {discard : Bool} {spec : BufferSpec} {size : UInt64}
  {staging : BoundBuffer} {rest : List BoundBuffer} {n : Nat} {result : Except Failure Unit}

theorem Building.extents {r : Except Failure BoundBuffer} (building : Building m spec size contents r m') :
    SameExtents m m' := by
  cases building with
  | unmade making => exact making.extents
  | unwritten making noted =>
    exact ((making.extents.trans noted.extents).trans (Machine.extents_destroyed ..)).trans (Machine.extents_freed ..)
  | @built staging _ making fits =>
    refine making.extents.trans (BoundBuffer.extents_written making.sized ?_)
    rw [Contents.size_pattern, UInt64.toNat_zero, Nat.zero_add]
    exact fits

theorem Building.sized (building : Building m spec size contents (.ok staging) m') : staging.Sized m' := by
  cases building with
  | @built _ m₁ making fits =>
    obtain ⟨stored, -⟩ := making.stored
    refine making.sized.kept stored.memory_le (BoundBuffer.extents_written making.sized ?_)
    rw [Contents.size_pattern, UInt64.toNat_zero, Nat.zero_add]
    exact fits

theorem Prepared.extents (prepared : Prepared m b contents b' staging m') : SameExtents m m' := by
  cases prepared with
  | kept => exact .refl m
  | built bare building => exact building.extents

theorem Filled.extents (filled : Filled m b contents discard b' result m') : SameExtents m m' := by
  cases filled with
  | unprepared bare building => exact building.extents
  | interrupted prepared steps | uploaded prepared steps => exact prepared.extents.trans steps.extents
  | discarded prepared steps =>
    have copied := prepared.extents.trans steps.extents
    exact (copied.trans (Machine.extents_destroyed ..)).trans (Machine.extents_freed ..)

/-- A fill leaves a buffer, and a staging buffer that is kept, with as much memory as they say. -/
theorem Filled.sized (owned : m.Owned (b.parts ++ rest) n) (sized : ∀ part ∈ b.parts, part.Sized m)
    (filled : Filled m b contents discard b' result m') : ∀ part ∈ b'.parts, part.Sized m' := by
  have old (part : BoundBuffer) (mem : part ∈ b.parts) : part.Sized m' :=
    (sized part mem).kept (owned.le (List.mem_append_left _ mem)).2 filled.extents
  have main : b.main.Sized m' := old _ (List.mem_append_right _ (List.mem_singleton.2 rfl))
  have uploaded {m₁ : Machine} {staging : BoundBuffer} (prepared : Prepared m b contents b' staging m₁)
      (steps : m₁.CopySteps (b.uploading staging) m') : ∀ part ∈ b'.parts, part.Sized m' := by
    rw [parts_of_staged prepared.staged, prepared.main]
    refine List.forall_mem_cons.2 ⟨?_, List.forall_mem_singleton.2 main⟩
    have used := ((owned_prepared owned prepared).le List.mem_cons_self).2
    cases prepared with
    | kept staged => exact old _ (by simp [parts_of_staged staged])
    | built bare building => exact building.sized.kept used steps.extents
  cases filled with
  | unprepared => exact old
  | interrupted prepared steps | uploaded prepared steps => exact uploaded prepared steps
  | discarded prepared =>
    rw [parts_of_bare rfl, prepared.main]
    exact List.forall_mem_singleton.2 main

end StagedBuffer

/-! ## Runs -/

namespace Workspace

variable {start w w' : Workspace} {ranges ranges' : List MappedRange} {run run' : Run} {name : String}

theorem mem_owners {buffers : Table String StagedBuffer} {part : BoundBuffer} :
    part ∈ owners buffers ↔ ∃ name b, buffers.get? name = some b ∧ part ∈ b.parts := by
  constructor
  · intro mem
    obtain ⟨⟨name, b⟩, entry, part⟩ := List.mem_flatMap.1 mem
    exact ⟨name, b, Table.mem_entries.1 entry, part⟩
  · rintro ⟨name, b, held, part⟩
    exact List.mem_flatMap.2 ⟨(name, b), Table.mem_entries.2 held, part⟩

theorem mem_owners_of_erase {buffers : Table String StagedBuffer} {part : BoundBuffer}
    (mem : part ∈ owners (buffers.erase name)) : part ∈ owners buffers := by
  obtain ⟨name', b, held, part⟩ := mem_owners.1 mem
  exact mem_owners.2 ⟨name', b, Table.get?_of_get?_erase held, part⟩

/-- All buffers have as much memory as they say, and each range that is open lies in its memory. -/
structure Fitting (w : Workspace) (ranges : List MappedRange) : Prop where
  balanced : w.Balanced ranges.length
  sized : ∀ b ∈ owners w.buffers, b.Sized w.session.machine
  used : ∀ range ∈ ranges, range.memory ≤ w.session.machine.lastHandle
  inside : ∀ range ∈ ranges, ∀ bytes, w.session.machine.memories.get? range.memory = some bytes →
    range.offset.toNat + range.size.toNat ≤ bytes.size

/-- What is held or opened besides what was there before has to fit. -/
theorem Fitting.step (h : Fitting w ranges) (balanced : w'.Balanced ranges'.length)
    (extents : SameExtents w.session.machine w'.session.machine)
    (parts : ∀ b ∈ owners w'.buffers, b ∈ owners w.buffers ∨ b.Sized w'.session.machine)
    (opened : ∀ range ∈ ranges', range ∈ ranges ∨ ∃ b ∈ owners w.buffers, range.memory = b.memory ∧
      range.offset.toNat + range.size.toNat ≤ b.actualSize.toNat) : Fitting w' ranges' := by
  have owned : w.session.machine.Owned (owners w.buffers) ranges.length := h.balanced
  refine ⟨balanced, fun b mem => ?_, fun range mem => Nat.le_trans ?_ extents.lastHandle, fun range mem => ?_⟩
  · rcases parts b mem with old | sized
    · exact (h.sized b old).kept (owned.le old).2 extents
    · exact sized
  · rcases opened range mem with old | ⟨b, held, memory, -⟩
    · exact h.used range old
    · rw [memory]
      exact (owned.le held).2
  · intro bytes hbytes
    rcases opened range mem with old | ⟨b, held, memory, fits⟩
    · obtain ⟨bytes₀, hbytes₀, size⟩ := extents.sizes _ (h.used range old) bytes hbytes
      rw [← size]
      exact h.inside range old bytes₀ hbytes₀
    · rw [memory] at hbytes
      rw [(h.sized b held).kept (owned.le held).2 extents bytes hbytes]
      exact fits

/-- A step that neither holds nor opens anything. -/
theorem Fitting.aside {s : Session} (h : Fitting w ranges) (balanced : Balanced ⟨s, w.buffers⟩ ranges.length)
    (extents : SameExtents w.session.machine s.machine) : Fitting ⟨s, w.buffers⟩ ranges :=
  h.step balanced extents (fun _ => .inl) fun _ => .inl

/-- Every request leaves what is held as large as it says. -/
theorem Fitting.performed {request : BufferRequest} {r : Except Failure BufferReply} (h : Fitting w ranges)
    (performed : Performed w request r w') : Fitting w' ranges := by
  have balanced := h.balanced.performed performed
  have owned : w.session.machine.Owned (owners w.buffers) ranges.length := h.balanced
  cases performed with
  | absent | inspected => exact h
  | noted annotates annotated => exact h.aside balanced annotated.extents
  | unmade making => exact h.aside balanced making.extents
  | made absent making =>
    refine h.step balanced making.extents (fun b mem => ?_) fun _ => .inl
    rw [owners_insert] at mem
    rcases List.mem_append.1 mem with new | old
    · cases List.mem_singleton.1 new
      exact .inr making.sized
    · exact .inl (mem_owners_of_erase old)
  | @replaced name _ main s held before making =>
    refine h.step balanced (making.extents.trans (Machine.extents_without ..)) (fun b mem => ?_) fun _ => .inl
    rw [owners_insert] at mem
    rcases List.mem_append.1 mem with new | old
    · cases List.mem_singleton.1 new
      exact .inr (making.sized.kept ((owned.making making).le List.mem_cons_self).2 (Machine.extents_without ..))
    · exact .inl (mem_owners_of_erase old)
  | filled held filled =>
    refine h.step balanced filled.extents (fun b mem => ?_) fun _ => .inl
    rw [owners_insert] at mem
    rcases List.mem_append.1 mem with new | old
    · exact .inr (filled.sized (h.balanced.split held)
        (fun part mem => h.sized part (mem_owners.2 ⟨_, _, held, mem⟩)) b new)
    · exact .inl (mem_owners_of_erase old)
  | copied held sourceHeld steps => exact h.aside balanced steps.extents
  | read held => exact h.aside balanced ((Machine.extents_mapped ..).trans (Machine.extents_unmapped ..))
  | written held patch fits =>
    exact h.aside balanced (BoundBuffer.extents_written (h.sized _ (main_mem_owners held)) fits)
  | released held =>
    exact h.step balanced (Machine.extents_without ..) (fun _ mem => .inl (mem_owners_of_erase mem)) fun _ => .inl
  | pooled steps => exact h.aside balanced (Machine.Steps.extents steps)

theorem New.fitting (new : start.New) : Fitting start [] := by
  refine ⟨new.balanced, fun b mem => ?_, nofun, nofun⟩
  rw [new.bare] at mem
  cases mem

theorem Run.Ranging.fitting (ranging : Run.Ranging run run') (h : Fitting run.workspace run.ranges) :
    Fitting run'.workspace run'.ranges := by
  have balanced := ranging.balanced h.balanced
  cases ranging with
  | opened maps =>
    cases (ends_of_ok maps).1 (ends_openRange h.balanced.live _ _ _) with
    | opened held offset size fits =>
      refine h.step balanced (Machine.extents_mapped ..) (fun _ => .inl) ?_
      exact List.forall_mem_cons.2 ⟨.inr ⟨_, main_mem_owners held, rfl, fits⟩, fun _ => .inl⟩
  | unopened fails =>
    cases (ends_of_error fails).1 (ends_openRange h.balanced.live _ _ _) with
    | noted annotated => exact h.aside balanced annotated.extents
  | @written range mem bytes =>
    -- What is written was cut to the range, and the range lies in its memory.
    rw [finalState_writeOpen] at balanced ⊢
    refine h.aside balanced (Machine.extents_overwritten fun all hall => ?_)
    exact Nat.le_trans (Nat.add_le_add_left (BoundBuffer.size_cut ..) _) (h.inside range mem all hall)
  | closed mem =>
    rw [finalState_closeRange] at balanced ⊢
    exact h.step balanced (Machine.extents_unmapped ..) (fun _ => .inl)
      fun range hmem => .inl (List.mem_of_mem_erase hmem)

theorem Run.Step.fitting (step : Run.Step run run') (h : Fitting run.workspace run.ranges) :
    Fitting run'.workspace run'.ranges := by
  cases step with
  | perform request =>
    refine ends_finalState (Q := fun w : Workspace => w.Fitting run.ranges) |>.1 ?_
    exact (ends_perform_performed h.balanced.live request).mono fun _ _ hp => h.performed hp
  | range ranging => exact ranging.fitting h

theorem Run.Steps.fitting (new : start.New) (steps : Run.Steps { workspace := start } run) :
    Fitting run.workspace run.ranges :=
  steps.preserve (I := fun run => Fitting run.workspace run.ranges) (fun _ _ => Run.Step.fitting) new.fitting

/-- After any run, mapping any range of any buffer or staging buffer is exact. -/
theorem mapsExactly_of_steps (new : start.New) (steps : Run.Steps { workspace := start } run) {b : BoundBuffer}
    (owner : b ∈ owners run.workspace.buffers) (offset size : UInt64) :
    b.MapsExactly run.workspace.session.machine offset size := by
  have fitting := steps.fitting new
  obtain ⟨bytes, live⟩ := Machine.Owned.live fitting.balanced owner
  exact BoundBuffer.mapsExactly_of_live live (fitting.sized b owner bytes live) offset size

/-- A range whose end wraps around is turned down, and one up to the end of the memory is mapped. -/
theorem mapsExactly_wrapping :
    let start := hosted { schedule := .losesFirst .createFence } 1
    let made := Run.performed { workspace := start } (.create "a" (.deviceLocal 4 Usage.transferDestination))
    start.New ∧ ∃ b ∈ owners made.workspace.buffers,
      b.actualSize = 256 ∧ b.reach 0xFFFFFFFFFFFFFFFF 2 = 2 ∧ b.reach 200 wholeSize = 56 ∧
        b.MapsExactly made.workspace.session.machine 0xFFFFFFFFFFFFFFFF 2 ∧
          b.MapsExactly made.workspace.session.machine 200 wholeSize := by
  intro start made
  have new : start.New := new_unfenced Nat.one_pos
  have steps : Run.Steps { workspace := start } made := .single (.perform _)
  have held : (made.workspace.buffers.get? "a").map (·.main.actualSize) = some 256 := by decide +kernel
  obtain ⟨a, held, size⟩ := Option.map_eq_some_iff.1 held
  have owner : a.main ∈ owners made.workspace.buffers := main_mem_owners held
  have far : a.main.reach 0xFFFFFFFFFFFFFFFF 2 = 2 := by
    rw [BoundBuffer.reach, if_neg (by decide)]
    rfl
  have rest : a.main.reach 200 wholeSize = 56 := by
    rw [BoundBuffer.reach, if_pos rfl, size]
    decide
  exact ⟨new, a.main, owner, size, far, rest, mapsExactly_of_steps new steps owner _ _,
    mapsExactly_of_steps new steps owner _ _⟩

/-- A range that stays open shows a part of its memory for as long as that is live, whatever is done
meanwhile. -/
theorem exact_of_steps (new : start.New) (steps : Run.Steps { workspace := start } run) {range : MappedRange}
    (opened : range ∈ run.ranges) {bytes : ByteArray}
    (live : run.workspace.session.machine.memories.get? range.memory = some bytes) :
    ∃ before shown after, bytes.data.toList = before ++ shown ++ after ∧
      range.Exact run.workspace.session.machine before shown after := by
  obtain ⟨before, shown, after, octets, shows⟩ :=
    range.shows_of_fits live ((steps.fitting new).inside range opened bytes live)
  exact ⟨before, shown, after, octets, shows.exact⟩

end Workspace

end CopyBench
