import CopyBench.Buffer.Staged
import CopyBench.Proofs.Pool.Names
/-!
# Buffers and their names

A buffer is made under its name, if it has one, and its staging buffer under a name made of that. Nothing
else that is done with a buffer looks at its name, so the names do not matter to what is done with buffers.
-/

namespace CopyBench

open CopyBench.Action

/-- The specification without a name. -/
def BufferSpec.unnamed (spec : BufferSpec) : BufferSpec := { spec with name := none }

namespace BoundBuffer

/-- The buffer without its name. -/
def unnamed (buffer : BoundBuffer) : BoundBuffer := { buffer with spec := buffer.spec.unnamed }

/-- Buffers that are the same, names aside. -/
def NamesAside (buffer buffer' : BoundBuffer) : Prop := buffer.unnamed = buffer'.unnamed

variable {b b' : BoundBuffer}

theorem NamesAside.handle (h : NamesAside b b') : b.handle = b'.handle := congrArg (·.handle) h

theorem NamesAside.memory (h : NamesAside b b') : b.memory = b'.memory := congrArg (·.memory) h

theorem NamesAside.actualSize (h : NamesAside b b') : b.actualSize = b'.actualSize := congrArg (·.actualSize) h

theorem NamesAside.size (h : NamesAside b b') : b.spec.size = b'.spec.size := congrArg (·.spec.size) h

theorem NamesAside.release (h : NamesAside b b') : b.release = b'.release := by
  rw [BoundBuffer.release, BoundBuffer.release, h.handle, h.memory]

theorem NamesAside.map (h : NamesAside b b') : b.map = b'.map := by
  funext offset size
  unfold BoundBuffer.map mappedSize covers
  rw [h.memory, h.actualSize]

/-- To attach a name leaves the machine as it was. -/
theorem idles_attachName (device : Device) (handle : Handle) (name : String) :
    Idles Machine.NamesAside (attachName device handle name) := fun m => by
  rw [attachName, ends_bind]
  refine (device.ends_nameObject_aside _ handle name m).mono fun r m' h => ?_
  obtain ⟨⟨_ | _, rfl⟩, aside⟩ := h
  · exact ⟨rfl, aside⟩
  · exact ⟨rfl, aside⟩

theorem blind_release (buffer : BoundBuffer) : Blind Machine.NamesAside buffer.release :=
  (Machine.blind_destroyBuffer buffer.handle).andThen fun _ => Machine.blind_freeMemory buffer.memory

theorem blind_allocate (device : Device) (size : UInt64) (typeBits required : UInt32) :
    Blind Machine.NamesAside (allocate device size typeBits required) := by
  unfold allocate
  cases MemoryType.find? device.memoryTypes typeBits required with
  | none => exact .fail _
  | some memoryType =>
    have allocated : Blind Machine.NamesAside (Machine.allocateMemory size memoryType) :=
      Machine.blind_make fun _ _ => rfl
    exact allocated.orFatal _

theorem blind_map (buffer : BoundBuffer) (offset size : UInt64) : Blind Machine.NamesAside (buffer.map offset size) :=
  .ite (((Machine.blind_mapMemory _ _ _).orOperational _).andThen fun _ => .pure rfl) (.fail _)

/-- Under whatever names it is made, the same buffer is made, names aside. -/
theorem matches_create (device : Device) {spec spec' : BufferSpec} (same : spec.unnamed = spec'.unnamed) :
    Matches Machine.NamesAside NamesAside (create device spec) (create device spec') := by
  obtain ⟨size, usage, sharing, properties, name⟩ := spec
  obtain ⟨_, _, _, _, name'⟩ := spec'
  cases same
  have created : Blind Machine.NamesAside (Machine.createBuffer size usage sharing) :=
    Machine.blind_make fun _ _ => rfl
  refine (created.orFatal _).andThen fun handle => (Machine.blind_memoryRequirement handle).andThen fun required => ?_
  refine ((blind_allocate device _ _ properties).onFailure (Machine.blind_destroyBuffer handle)).andThen
    fun memory => ?_
  have bound : Blind Machine.NamesAside (Machine.bindBufferMemory handle memory) := Machine.blind_affect fun _ => rfl
  have dropped := (Machine.blind_destroyBuffer handle).andThen fun _ => Machine.blind_freeMemory memory
  refine ((bound.orFatal _).onFailure dropped).andThen fun _ => ?_
  have made (level : Level) (note : String) : Matches Machine.NamesAside NamesAside
      (log level note >>= fun _ => pure ⟨handle, memory, ⟨size, usage, sharing, properties, name⟩, required.1⟩)
      (log level note >>= fun _ => pure ⟨handle, memory, ⟨size, usage, sharing, properties, name'⟩, required.1⟩) :=
    (Machine.blind_log level note).andThen fun _ => .pure rfl
  have idles := idles_attachName device handle
  cases name with
  | none =>
    cases name' with
    | none => exact made _ _
    | some text' => exact (made _ _).idleRight Machine.namesAside_equivalence (idles text')
  | some text =>
    refine .idleLeft Machine.namesAside_equivalence (idles text) ?_
    cases name' with
    | none => exact made _ _
    | some text' => exact (made _ _).idleRight Machine.namesAside_equivalence (idles text')

end BoundBuffer

/-! ## Ranges -/

namespace MappedRange

theorem blind_read (range : MappedRange) : Blind Machine.NamesAside range.read :=
  (Machine.blind_contents range.memory).andThen fun _ => .pure rfl

theorem blind_write (range : MappedRange) (bytes : ByteArray) : Blind Machine.NamesAside (range.write bytes) :=
  Machine.blind_overwrite _ _ _

theorem blind_unmap (range : MappedRange) : Blind Machine.NamesAside range.unmap := Machine.blind_unmapMemory _

end MappedRange

/-! ## Buffers with a staging buffer -/

namespace StagedBuffer

/-- The buffer and its staging buffer without their names. -/
def unnamed (buffer : StagedBuffer) : StagedBuffer :=
  { buffer with main := buffer.main.unnamed, staging := buffer.staging.map (·.unnamed) }

/-- Buffers that are the same, names aside. -/
def NamesAside (buffer buffer' : StagedBuffer) : Prop := buffer.unnamed = buffer'.unnamed

open Session (getPool)

variable {b b' : StagedBuffer}

theorem NamesAside.main (h : NamesAside b b') : b.main.NamesAside b'.main := congrArg StagedBuffer.main h

theorem NamesAside.staging (h : NamesAside b b') : b.staging.map (·.unnamed) = b'.staging.map (·.unnamed) :=
  congrArg (·.staging) h

theorem NamesAside.stagingWrites (h : NamesAside b b') : b.stagingWrites = b'.stagingWrites :=
  congrArg (·.stagingWrites) h

theorem NamesAside.size (h : NamesAside b b') : b.requestedSize = b'.requestedSize := h.main.size

/-- Either both keep a staging buffer or neither does. -/
theorem NamesAside.staging_cases (h : NamesAside b b') : b.staging = none ∧ b'.staging = none ∨
    ∃ staging staging', b.staging = some staging ∧ b'.staging = some staging' ∧ staging.NamesAside staging' := by
  have same := h.staging
  cases kept : b.staging with
  | none =>
    rw [kept] at same
    exact .inl ⟨rfl, Option.map_eq_none_iff.1 same.symm⟩
  | some staging =>
    rw [kept] at same
    obtain ⟨staging', kept', unnamed⟩ := Option.map_eq_some_iff.1 same.symm
    exact .inr ⟨staging, staging', rfl, kept', unnamed.symm⟩

theorem NamesAside.stagingSpec (h : NamesAside b b') : b.stagingSpec.unnamed = b'.stagingSpec.unnamed := by
  have spec (buffer : StagedBuffer) : buffer.stagingSpec.unnamed = .staging buffer.requestedSize := by
    unfold StagedBuffer.stagingSpec
    cases buffer.main.spec.name <;> rfl
  rw [spec, spec, h.size]

theorem matches_create {spec spec' : BufferSpec} (same : spec.unnamed = spec'.unnamed) :
    Matches Session.NamesAside NamesAside (create spec) (create spec') :=
  Session.blind_getPool.andThen fun pool =>
    (Session.matches_onMachine (BoundBuffer.matches_create pool.device same)).bind fun _ _ main =>
      .pure (congrArg (fun main => { main : StagedBuffer }) main)

theorem matches_buildStaging (h : NamesAside b b') (contents : Contents) :
    Matches Session.NamesAside BoundBuffer.NamesAside (b.buildStaging contents) (b'.buildStaging contents) := by
  refine Session.blind_getPool.andThen fun pool => ?_
  refine (Session.matches_onMachine (BoundBuffer.matches_create pool.device h.stagingSpec)).bind
    fun staging staging' same => ?_
  rw [h.size, same.map, same.release]
  have written := (staging'.blind_map 0 b'.requestedSize).andThen fun range =>
    (range.blind_write (contents.pattern range.size.toNat)).andThen fun _ => range.blind_unmap
  exact (Session.matches_onMachine (written.onFailure staging'.blind_release)).andThen fun _ => .pure same

theorem blind_copyFrom (buffer source : BoundBuffer) (region : Region) (wait : Bool) :
    Blind Session.NamesAside (copyFrom buffer source region wait) :=
  Session.blind_acquire.andThen fun _ =>
    (Session.blind_onMachine (Machine.blind_copyBuffer _ _ _ _)).andThen fun _ => Session.blind_close _ _

/-- A copy speaks of buffers by their handles. -/
theorem copyFrom_aside {buffer buffer' source source' : BoundBuffer} (h : buffer.NamesAside buffer')
    (hs : source.NamesAside source') : copyFrom buffer source = copyFrom buffer' source' := by
  funext region wait
  rw [copyFrom, copyFrom, h.handle, hs.handle]

theorem matches_stage (h : NamesAside b b') (contents : Contents) :
    Matches Session.NamesAside NamesAside (b.stage contents) (b'.stage contents) := by
  unfold stage
  obtain ⟨bare, bare'⟩ | ⟨staging, staging', kept, kept', -⟩ := h.staging_cases
  · rw [bare, bare']
    refine (matches_buildStaging h contents).bind fun staging staging' same => .pure ?_
    unfold NamesAside unnamed
    rw [h.main, h.stagingWrites, Option.map_some, Option.map_some, same]
  · rw [kept, kept']
    exact .pure h

theorem matches_upload (h : NamesAside b b') : Matches Session.NamesAside Eq b.upload b'.upload := by
  unfold upload
  obtain ⟨bare, bare'⟩ | ⟨staging, staging', kept, kept', same⟩ := h.staging_cases
  · rw [bare, bare']
    exact .pure rfl
  · rw [kept, kept', h.size]
    dsimp only
    rw [copyFrom_aside h.main same]
    exact blind_copyFrom _ _ _ _

theorem matches_discardStaging (h : NamesAside b b') :
    Matches Session.NamesAside NamesAside b.discardStaging b'.discardStaging := by
  unfold discardStaging
  obtain ⟨bare, bare'⟩ | ⟨staging, staging', kept, kept', same⟩ := h.staging_cases
  · rw [bare, bare']
    exact .pure h
  · rw [kept, kept']
    dsimp only
    rw [same.release]
    refine (Session.blind_onMachine staging'.blind_release).andThen fun _ => .pure ?_
    unfold NamesAside unnamed
    rw [h.main, h.stagingWrites]

/-- A fill gives buffers that are the same, names aside, and the same outcome. -/
theorem matches_fill (h : NamesAside b b') (contents : Contents) (discard : Bool) :
    Matches Session.NamesAside (fun p p' => p.1.NamesAside p'.1 ∧ p.2 = p'.2) (b.fill contents discard)
      (b'.fill contents discard) := by
  refine (matches_stage h contents).attempt.bind fun r r' staged => ?_
  cases staged with
  | error f => exact .pure ⟨h, rfl⟩
  | ok same =>
    refine (matches_upload same).attempt.bind fun r r' uploaded => ?_
    cases uploaded with
    | error f => exact .pure ⟨same, rfl⟩
    | ok _ => exact .ite ((matches_discardStaging same).bind fun _ _ kept => .pure ⟨kept, rfl⟩) (.pure ⟨same, rfl⟩)

theorem blind_release (buffer : StagedBuffer) : Blind Machine.NamesAside buffer.release := by
  unfold release
  cases buffer.staging with
  | none => exact buffer.main.blind_release
  | some staging => exact staging.blind_release.andThen fun _ => buffer.main.blind_release

theorem NamesAside.release (h : NamesAside b b') : b.release = b'.release := by
  unfold StagedBuffer.release
  obtain ⟨bare, bare'⟩ | ⟨staging, staging', kept, kept', same⟩ := h.staging_cases
  · rw [bare, bare', h.main.release]
  · rw [kept, kept', h.main.release]
    dsimp only
    rw [same.release]

end StagedBuffer

end CopyBench
