import CopyBench.Proofs.Buffer.Bound
import CopyBench.Proofs.Pool.Copying
/-!
# Buffers as cells

A device buffer looks like a cell of a store: its memory holds the cell's bytes, and its staging
memory, where it has one, starts with the pattern that the cell remembers. Each operation on a buffer
keeps it looking like the cell after the same operation, and touches no memory but the buffer's own.
-/

namespace CopyBench

open CopyBench.Action

/-! ## Steps of a ready session -/

/-- A session that stays ready while it touches some memories and executes `n` copies. -/
structure Session.Step (s s' : Session) (touched : List Handle) (n : Nat) : Prop extends
    Machine.SameSetting s.machine s'.machine, Machine.Keeps s.machine s'.machine touched where
  ready : s'.Ready
  device : s'.pool.device = s.pool.device
  copiesExecuted : s'.machine.counters.copiesExecuted = s.machine.counters.copiesExecuted + n

namespace Session

variable {s s₁ s₂ s₃ : Session} {touched : List Handle} {n n' : Nat}

theorem Step.trans (h : Step s₁ s₂ touched n) (h' : Step s₂ s₃ touched n') :
    Step s₁ s₃ touched (n + n') :=
  ⟨h.toSameSetting.trans h'.toSameSetting, h.toKeeps.trans h'.toKeeps, h'.ready,
    h'.device.trans h.device, by rw [h'.copiesExecuted, h.copiesExecuted, Nat.add_assoc]⟩

/-- What is new need not be listed. -/
theorem Step.narrow {touched' : List Handle} (h : Step s₁ s₂ touched n)
    (sub : ∀ o ∈ touched, o ∈ touched' ∨ s₁.machine.lastHandle < o) : Step s₁ s₂ touched' n :=
  ⟨h.toSameSetting, h.toKeeps.narrow sub, h.ready, h.device, h.copiesExecuted⟩

theorem Step.weaken {touched' : List Handle} (h : Step s₁ s₂ touched n) (sub : touched ⊆ touched') :
    Step s₁ s₂ touched' n :=
  h.narrow fun _ hmem => .inl (sub hmem)

/-- What happens to the machine only, and records nothing, leaves the pool ready. -/
theorem Step.of_local {m : Machine} (ready : s.Ready) (h : Machine.Local s.machine m touched) :
    Step s { s with machine := m } touched 0 := by
  refine ⟨h.toSameSetting, h.toKeeps, ⟨ready.reliable.of_same h.toSameSetting, ready.cursor,
    ready.settled, fun slot hmem => ?_, ready.autoFlushes⟩, rfl, h.copiesExecuted⟩
  change (m.recorded.get? _).getD [] = []
  rw [h.recorded]
  exact ready.blank slot hmem

end Session

/-! ## Copies between buffers -/

namespace Machine

variable {m : Machine} {target source : BoundBuffer} {bytes sourceBytes : List UInt8} {region : Region}

/-- A copy between ranges that lie in two buffers, which may be one, replaces the bytes of the
destination under its range by those that the source had. -/
theorem stored_copied (hs : m.Stored source sourceBytes) (ht : m.Stored target bytes)
    (sourceFits : region.sourceOffset.toNat + region.size.toNat ≤ sourceBytes.length)
    (fits : region.destinationOffset.toNat + region.size.toNat ≤ bytes.length) :
    ∃ m', m.copied ⟨source.handle, target.handle, region⟩ = .ok m' ∧ SameSetting m m' ∧
      Keeps m m' [target.memory] ∧
      m'.counters.copiesExecuted = m.counters.copiesExecuted + 1 ∧
      m'.Stored target (patched bytes region.destinationOffset.toNat
        ((sourceBytes.drop region.sourceOffset.toNat).take region.size.toNat)) := by
  obtain ⟨sourceArray, hsource, rfl⟩ := hs.memory
  obtain ⟨array, htarget, rfl⟩ := ht.memory
  have hsFits : Bytes.fits sourceArray.size region.sourceOffset.toNat region.size.toNat := by
    simpa [Bytes.fits] using sourceFits
  have htFits : Bytes.fits array.size region.destinationOffset.toNat region.size.toNat := by
    simpa [Bytes.fits] using fits
  have hpatch : (sourceArray.data.toList.drop region.sourceOffset.toNat).take region.size.toNat =
      (Bytes.slice sourceArray region.sourceOffset.toNat region.size.toNat).data.toList := by
    simp [Bytes.slice]
  have hsize : ((sourceArray.data.toList.drop region.sourceOffset.toNat).take region.size.toNat).length =
      region.size.toNat := by
    simp only [List.length_take, List.length_drop]
    omega
  refine ⟨_, copied_eq hs.binding ht.binding hsource htarget hsFits htFits, ⟨rfl, rfl, rfl, rfl⟩,
    ⟨fun _ _ _ => rfl, fun h _ hnot => ?_, Nat.le_refl _⟩, rfl, ht.binding,
    ⟨_, Table.get?_insert_self .., ?_⟩, ?_, ht.handle_le, ht.memory_le⟩
  · exact Table.get?_insert_of_ne _ _ (by simpa using hnot)
  · rw [moved, Bytes.toList_transfer hsFits, patched, hsize, hpatch]
  · rw [length_patched, ht.length]
    rw [hsize]
    exact fits

end Machine

namespace StagedBuffer

/-- The numbers of a buffer and of its staging buffer. -/
def objects (b : StagedBuffer) : List Handle :=
  b.main.objects ++ match b.staging with
    | none => []
    | some staging => staging.objects

/-- A copy between buffers, as a step of the session. -/
theorem ends_copyFrom_stored {s : Session} (ready : s.Ready) {target source : BoundBuffer}
    {bytes sourceBytes : List UInt8} {region : Region} (hs : s.machine.Stored source sourceBytes)
    (ht : s.machine.Stored target bytes)
    (sourceFits : region.sourceOffset.toNat + region.size.toNat ≤ sourceBytes.length)
    (fits : region.destinationOffset.toNat + region.size.toNat ≤ bytes.length) (wait : Bool) :
    (copyFrom target source region wait).Ends s fun r s' => r = .ok () ∧
      Session.Step s s' [target.memory] 1 ∧
      s'.machine.Stored target (patched bytes region.destinationOffset.toNat
        ((sourceBytes.drop region.sourceOffset.toNat).take region.size.toNat)) := by
  obtain ⟨m', hcopied, setting, keeps, count, stored⟩ := Machine.stored_copied hs ht sourceFits fits
  refine (ends_copyFrom_ok ready hcopied wait).mono fun r s' h => ?_
  obtain ⟨rfl, halike, ready', device⟩ := h
  have keeps' : Machine.Keeps m' s'.machine [] :=
    ⟨fun _ _ _ => by rw [halike.bindings], fun _ _ _ => by rw [halike.memories], halike.lastHandle⟩
  exact ⟨rfl, ⟨setting.trans halike.toSameSetting, keeps.trans (keeps'.weaken (List.nil_subset _)), ready',
    device, halike.copiesExecuted.trans count⟩, stored.kept keeps' (by simp)⟩

/-! ## What a buffer looks like -/

/-- A staging buffer whose memory starts with the first `n` octets of a pattern. -/
def Staged (m : Machine) (n : Nat) (staging : BoundBuffer) (contents : Contents) : Prop :=
  ∃ bytes, m.Stored staging bytes ∧ bytes.take n = contents.octets n

/-- A buffer looks like a cell. -/
structure Mirrors (m : Machine) (b : StagedBuffer) (cell : Cell) : Prop where
  spec : b.main.spec = cell.spec
  main : m.Stored b.main cell.bytes
  staging : Option.Rel (Staged m cell.spec.size.toNat) b.staging cell.staged
  apart : ∀ staging, b.staging = some staging → b.main.objects.Disjoint staging.objects
  stagingWrites : b.stagingWrites = cell.stagingWrites
  enough : cell.spec.size ≤ Machine.requirement m.profile cell.spec.size
  room : cell.spec.size.toNat ≤ cell.bytes.length

/-- Whatever a buffer is made of was there before, or is new. -/
def Within (m : Machine) (b b' : StagedBuffer) : Prop :=
  ∀ o ∈ b'.objects, o ∈ b.objects ∨ m.lastHandle < o

variable {m m' : Machine} {b : StagedBuffer} {cell : Cell} {touched : List Handle}

theorem Staged.kept {n : Nat} {staging : BoundBuffer} {contents : Contents}
    (h : Staged m n staging contents) (keeps : Machine.Keeps m m' touched)
    (apart : staging.objects.Disjoint touched) : Staged m' n staging contents := by
  obtain ⟨bytes, stored, hpattern⟩ := h
  exact ⟨bytes, stored.kept keeps apart, hpattern⟩

theorem mem_objects_le {bytes : List UInt8} {b : BoundBuffer} (h : m.Stored b bytes) :
    ∀ o ∈ b.objects, o ≤ m.lastHandle := by
  intro o ho
  rcases List.mem_cons.1 ho with rfl | ho
  · exact h.handle_le
  · exact List.mem_singleton.1 ho ▸ h.memory_le

/-- A buffer with staging looks like a cell that remembers a pattern. -/
theorem Mirrors.staged (h : Mirrors m b cell) {staging : BoundBuffer} (hstaging : b.staging = some staging) :
    ∃ contents, cell.staged = some contents ∧ Staged m cell.spec.size.toNat staging contents := by
  have hrel := h.staging
  rw [hstaging] at hrel
  generalize cell.staged = staged at hrel
  cases hrel with
  | some hrel => exact ⟨_, rfl, hrel⟩

theorem Mirrors.unstaged (h : Mirrors m b cell) (hstaging : b.staging = none) : cell.staged = none := by
  have hrel := h.staging
  rw [hstaging] at hrel
  generalize cell.staged = staged at hrel
  cases hrel
  rfl

theorem mem_objects {o : Handle} : o ∈ b.objects ↔
    o ∈ b.main.objects ∨ ∃ staging, b.staging = some staging ∧ o ∈ staging.objects := by
  obtain ⟨main, _ | staging, writes⟩ := b <;> simp [objects]

theorem mem_objects_memory (b : StagedBuffer) : [b.main.memory] ⊆ b.objects := by
  simp [objects, BoundBuffer.objects]

/-- A buffer is made of things that the machine has. -/
theorem Mirrors.objects_le (h : Mirrors m b cell) : ∀ o ∈ b.objects, o ≤ m.lastHandle := by
  intro o ho
  rcases mem_objects.1 ho with ho | ⟨staging, hstaging, ho⟩
  · exact mem_objects_le h.main o ho
  · obtain ⟨contents, -, bytes, stored, -⟩ := h.staged hstaging
    exact mem_objects_le stored o ho

/-- A buffer that is not touched goes on looking like its cell. -/
theorem Mirrors.kept (h : Mirrors m b cell) (setting : Machine.SameSetting m m')
    (keeps : Machine.Keeps m m' touched) (apart : b.objects.Disjoint touched) : Mirrors m' b cell := by
  refine ⟨h.spec, h.main.kept keeps fun o ho => apart (mem_objects.2 (.inl ho)), ?_, h.apart,
    h.stagingWrites, setting.profile ▸ h.enough, h.room⟩
  cases hstaging : b.staging with
  | none => exact h.unstaged hstaging ▸ .none
  | some staging =>
    obtain ⟨contents, hstaged, hrel⟩ := h.staged hstaging
    exact hstaged ▸ .some (hrel.kept keeps fun o ho => apart (mem_objects.2 (.inr ⟨_, hstaging, ho⟩)))

/-- A buffer whose own memory was rewritten looks like a cell with other bytes. -/
theorem Mirrors.rewritten (h : Mirrors m b cell) (setting : Machine.SameSetting m m')
    (keeps : Machine.Keeps m m' [b.main.memory]) {bytes : List UInt8} (stored : m'.Stored b.main bytes) :
    Mirrors m' b { cell with bytes } := by
  have hlength : bytes.length = cell.bytes.length := stored.length.trans h.main.length.symm
  refine ⟨h.spec, stored, ?_, h.apart, h.stagingWrites, setting.profile ▸ h.enough, hlength ▸ h.room⟩
  cases hstaging : b.staging with
  | none => exact h.unstaged hstaging ▸ .none
  | some staging =>
    obtain ⟨contents, hstaged, hrel⟩ := h.staged hstaging
    refine hstaged ▸ .some (hrel.kept keeps fun o ho ho' => h.apart staging hstaging ?_ ho)
    exact List.mem_singleton.1 ho' ▸ b.main.memory_mem_objects

/-! ## Making one -/

/-- A buffer that is made looks like a fresh cell, and shares nothing with what there was. -/
theorem ends_create_ok {s : Session} (ready : s.Ready) {spec : BufferSpec}
    (found : (MemoryType.find? s.pool.device.memoryTypes s.machine.profile.typeBits spec.properties).isSome)
    (enough : spec.size ≤ Machine.requirement s.machine.profile spec.size) :
    (create spec).Ends s fun r s' => ∃ b, r = .ok b ∧ Session.Step s s' [] 0 ∧
      Mirrors s'.machine b (.fresh s.machine.profile spec) ∧ ∀ o ∈ b.objects, s.machine.lastHandle < o := by
  rw [create, ends_bind, Session.ends_getPool]
  dsimp only
  rw [ends_bind, Session.ends_lift]
  refine (BoundBuffer.ends_create_ok ready.reliable found).mono fun r m' h => ?_
  obtain ⟨main, rfl, hspec, hsize, hnew, hlocal, stored⟩ := h
  refine ⟨{ main }, rfl, .of_local ready hlocal,
    ⟨hspec, ?_, .none, nofun, rfl, hlocal.profile ▸ enough, ?_⟩, fun o ho => ?_⟩
  · rw [hsize] at stored
    exact stored
  · simpa [Cell.fresh] using UInt64.le_iff_toNat_le.1 enough
  · exact hnew o (by simpa [mem_objects] using ho)

/-! ## Filling one -/

/-- A staging buffer that is built holds the pattern. -/
theorem ends_buildStaging_ok {s : Session} (ready : s.Ready) (b : StagedBuffer) (contents : Contents)
    (found : (MemoryType.find? s.pool.device.memoryTypes s.machine.profile.typeBits
      (BufferSpec.staging b.requestedSize).properties).isSome)
    (enough : b.requestedSize ≤ Machine.requirement s.machine.profile b.requestedSize) :
    (b.buildStaging contents).Ends s fun r s' => ∃ staging, r = .ok staging ∧ Session.Step s s' [] 0 ∧
      Staged s'.machine b.requestedSize.toNat staging contents ∧
        ∀ o ∈ staging.objects, s.machine.lastHandle < o := by
  have hproperties : b.stagingSpec.properties = (BufferSpec.staging b.requestedSize).properties := by
    unfold stagingSpec
    cases b.main.spec.name <;> rfl
  have hspecSize : b.stagingSpec.size = b.requestedSize := by
    unfold stagingSpec
    cases b.main.spec.name <;> rfl
  rw [buildStaging, ends_bind, Session.ends_getPool]
  dsimp only
  rw [ends_bind, Session.ends_lift]
  refine (BoundBuffer.ends_create_ok ready.reliable (hproperties ▸ found)).mono fun r m₁ h => ?_
  obtain ⟨staging, rfl, -, hsize, hnew, hlocal, stored⟩ := h
  rw [hspecSize] at hsize
  have hmapped : staging.mappedSize 0 b.requestedSize = b.requestedSize :=
    BoundBuffer.mappedSize_of_le (hsize ▸ enough)
  have hfits : (0 : UInt64).toNat + (staging.mappedSize 0 b.requestedSize).toNat ≤
      (List.replicate staging.actualSize.toNat Machine.freshByte).length := by
    rw [hmapped, List.length_replicate, hsize]
    simpa using UInt64.le_iff_toNat_le.1 enough
  dsimp only
  rw [ends_bind, Session.ends_lift, ends_onFailure, ends_bind, BoundBuffer.ends_map_ok
    (ready.reliable.of_same hlocal.toSameSetting) stored hfits]
  dsimp only
  rw [hmapped, ends_bind, BoundBuffer.ends_write (contents.size_pattern _)]
  dsimp only
  rw [MappedRange.unmap, Machine.ends_unmapMemory]
  have hfits' : (0 : UInt64).toNat + (contents.pattern b.requestedSize.toNat).size ≤
      (List.replicate staging.actualSize.toNat Machine.freshByte).length := by
    rw [Contents.size_pattern, ← hmapped]
    exact hfits
  have hwritten := (hlocal.weaken (List.nil_subset _)).trans (BoundBuffer.local_written m₁ staging 0 b.requestedSize
    (contents.pattern b.requestedSize.toNat))
  have hnarrow : Machine.Local s.machine _ [] := hwritten.narrow fun o ho => by
    obtain rfl := List.mem_singleton.1 ho
    exact .inr (hnew _ staging.memory_mem_objects)
  refine ⟨staging, rfl, .of_local ready hnarrow,
    ⟨_, BoundBuffer.stored_written stored b.requestedSize hfits', ?_⟩, hnew⟩
  rw [Contents.toList_pattern]
  simp [patched]

/-- The buffer with its staging buffer looks like the cell with its pattern. -/
theorem ends_stage_ok {s : Session} (ready : s.Ready) (mirrors : Mirrors s.machine b cell)
    (contents : Contents) (found : cell.staged = none → (MemoryType.find? s.pool.device.memoryTypes
      s.machine.profile.typeBits (BufferSpec.staging cell.spec.size).properties).isSome) :
    (b.stage contents).Ends s fun r s' => ∃ b', r = .ok b' ∧ Session.Step s s' [] 0 ∧
      Mirrors s'.machine b' { cell with
        staged := some (cell.staged.getD contents)
        stagingWrites := cell.stagingWrites + if cell.staged.isSome then 0 else 1 } ∧
      b'.main = b.main ∧ Within s.machine b b' := by
  cases hstaging : b.staging with
  | some staging =>
    rw [ends_stage_staged hstaging]
    obtain ⟨used, hstaged, hrel⟩ := mirrors.staged hstaging
    refine ⟨b, rfl, .of_local ready (BoundBuffer.local_refl _), ?_, rfl, fun o ho => .inl ho⟩
    obtain ⟨spec, bytes, staged, writes⟩ := cell
    obtain rfl : staged = some used := hstaged
    exact mirrors
  | none =>
    have hstaged := mirrors.unstaged hstaging
    have hsize : b.requestedSize = cell.spec.size := congrArg BufferSpec.size mirrors.spec
    rw [ends_stage_bare hstaging]
    refine (ends_buildStaging_ok ready b contents (hsize ▸ found hstaged) (hsize ▸ mirrors.enough)).mono fun r s' h => ?_
    obtain ⟨staging, rfl, step, hrel, hnew⟩ := h
    refine ⟨_, rfl, step, ?_, rfl, fun o ho => ?_⟩
    · have main := mirrors.main.kept step.toKeeps (by simp)
      refine ⟨mirrors.spec, main, ?_, ?_, ?_, step.profile ▸ mirrors.enough, mirrors.room⟩
      · rw [hstaged, ← hsize]
        exact .some hrel
      · rintro staging' ⟨⟩ o ho ho'
        exact Nat.not_lt.2 (mem_objects_le mirrors.main o ho) (hnew o ho')
      · rw [hstaged, mirrors.stagingWrites]
        rfl
    · rcases mem_objects.1 ho with ho | ⟨staging', h, ho⟩
      · exact .inl (mem_objects.2 (.inl ho))
      · cases h
        exact .inr (hnew o ho)

/-- The buffer starts with the pattern of its staging memory after that was uploaded. -/
theorem ends_upload_ok {s : Session} (ready : s.Ready) (mirrors : Mirrors s.machine b cell)
    {used : Contents} (hstaged : cell.staged = some used) :
    b.upload.Ends s fun r s' => r = .ok () ∧ Session.Step s s' b.objects 1 ∧
      Mirrors s'.machine b { cell with
        bytes := patched cell.bytes 0 (used.octets cell.spec.size.toNat) } := by
  obtain ⟨staging, hstaging⟩ : ∃ staging, b.staging = some staging := by
    by_contra hnone
    have hstaging := Option.eq_none_iff_forall_ne_some.2 fun staging h => hnone ⟨staging, h⟩
    exact Option.some_ne_none _ (hstaged.symm.trans (mirrors.unstaged hstaging))
  obtain ⟨used', hstaged', bytes, stored, hpattern⟩ := mirrors.staged hstaging
  obtain rfl := Option.some.inj (hstaged.symm.trans hstaged')
  have hsize : b.requestedSize = cell.spec.size := congrArg BufferSpec.size mirrors.spec
  have hlength : cell.spec.size.toNat ≤ bytes.length := by
    have := congrArg List.length hpattern
    rw [List.length_take, Contents.length_octets] at this
    omega
  rw [upload_staged hstaging]
  refine (ends_copyFrom_stored ready stored mirrors.main (by simpa [hsize] using hlength)
    (by simpa [hsize] using mirrors.room) true).mono fun r s' h => ?_
  obtain ⟨rfl, step, stored'⟩ := h
  have mirrors' := mirrors.rewritten step.toSameSetting step.toKeeps stored'
  have hpatch : (bytes.drop (0 : UInt64).toNat).take b.requestedSize.toNat =
      used.octets cell.spec.size.toNat := by
    rw [hsize]
    exact hpattern
  rw [hpatch] at mirrors'
  exact ⟨rfl, step.weaken (mem_objects_memory b), mirrors'⟩

/-- Without its staging buffer the buffer looks like the cell without its pattern. -/
theorem ends_discardStaging_ok {s : Session} (ready : s.Ready) (mirrors : Mirrors s.machine b cell) :
    b.discardStaging.Ends s fun r s' => ∃ b', r = .ok b' ∧ Session.Step s s' b.objects 0 ∧
      Mirrors s'.machine b' { cell with staged := none } ∧ b'.objects ⊆ b.objects := by
  cases hstaging : b.staging with
  | none =>
    rw [ends_discardStaging_bare hstaging]
    refine ⟨b, rfl, (Session.Step.of_local ready (BoundBuffer.local_refl _)).weaken (List.nil_subset _),
      ?_, fun _ => id⟩
    obtain ⟨spec, bytes, staged, writes⟩ := cell
    obtain rfl : staged = none := mirrors.unstaged hstaging
    exact mirrors
  | some staging =>
    rw [ends_discardStaging hstaging]
    have hlocal := BoundBuffer.local_released s.machine staging
    refine ⟨_, rfl, (Session.Step.of_local ready hlocal).weaken fun o ho => ?_,
      ⟨mirrors.spec, ?_, .none, nofun, mirrors.stagingWrites, mirrors.enough, mirrors.room⟩, fun o ho => ?_⟩
    · exact mem_objects.2 (.inr ⟨staging, hstaging, ho⟩)
    · exact mirrors.main.kept hlocal.toKeeps (mirrors.apart staging hstaging)
    · exact mem_objects.2 (.inl (by simpa [mem_objects] using ho))

/-- A fill makes the buffer look like the filled cell, and executes one copy. -/
theorem ends_fill_ok {s : Session} (ready : s.Ready) (mirrors : Mirrors s.machine b cell)
    (contents : Contents) (discard : Bool) (found : cell.staged = none →
      (MemoryType.find? s.pool.device.memoryTypes s.machine.profile.typeBits
        (BufferSpec.staging cell.spec.size).properties).isSome) :
    (b.fill contents discard).Ends s fun r s' => ∃ b', r = .ok (b', .ok ()) ∧
      Session.Step s s' b.objects 1 ∧ Mirrors s'.machine b' (cell.fill contents discard) ∧
        Within s.machine b b' := by
  rw [ends_fill]
  refine (ends_stage_ok ready mirrors contents found).mono fun r s₁ h => ?_
  obtain ⟨b₁, rfl, staged, mirrors₁, -, within⟩ := h
  refine (ends_upload_ok staged.ready mirrors₁ rfl).mono fun r s₂ h => ?_
  obtain ⟨rfl, uploaded, mirrors₂⟩ := h
  have filled : Session.Step s s₂ b.objects 1 :=
    ((staged.weaken (List.nil_subset _)).trans uploaded).narrow within
  cases discard with
  | false => exact ⟨b₁, rfl, filled, mirrors₂, within⟩
  | true =>
    dsimp only
    rw [if_pos rfl]
    refine (ends_discardStaging_ok uploaded.ready mirrors₂).mono fun r s₃ h => ?_
    obtain ⟨b₂, rfl, discarded, mirrors₃, sub⟩ := h
    refine ⟨b₂, rfl, ?_, mirrors₃, fun o ho => within o (sub ho)⟩
    exact (((staged.weaken (List.nil_subset _)).trans uploaded).trans discarded).narrow within

/-! ## Releasing one -/

theorem ends_release_ok (b : StagedBuffer) (m : Machine) :
    b.release.Ends m fun r m' => r = .ok () ∧ Machine.Local m m' b.objects := by
  have main (m : Machine) := (BoundBuffer.local_released m b.main).weaken fun o ho =>
    mem_objects.2 (.inl ho)
  rw [release]
  cases hstaging : b.staging with
  | none =>
    dsimp only
    rw [BoundBuffer.ends_release]
    exact ⟨rfl, main m⟩
  | some staging =>
    dsimp only
    rw [ends_bind, BoundBuffer.ends_release]
    dsimp only
    rw [BoundBuffer.ends_release]
    exact ⟨rfl, ((BoundBuffer.local_released m staging).weaken fun o ho =>
      mem_objects.2 (.inr ⟨staging, hstaging, ho⟩)).trans (main _)⟩

end StagedBuffer

end CopyBench
