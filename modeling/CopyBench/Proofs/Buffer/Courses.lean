import CopyBench.Proofs.Buffer.Extent
import CopyBench.Proofs.Pool.Course
/-!
# The courses of making and filling a buffer

Making a buffer goes through or halts, and so does a fill of a buffer that has no staging buffer: it makes
one, writes it, copies it into the buffer, waits, and gives it back. A fill that went through has completed
one copy and written one staging buffer. What it takes is that the memory which buffers get is not smaller
than what was asked for.
-/

namespace CopyBench

open CopyBench.Action CopyBench.Session

open Machine (Beside)

variable {m m' : Machine} {s : Session} {n : Nat} {owners rest : List BoundBuffer}

namespace Machine

theorem beside_told (note : Note) (m : Machine) : Beside m [] (Console.tell note m) :=
  ⟨(List.append_nil _).symm, rfl, rfl, rfl⟩

theorem sameStock_told (note : Note) (m : Machine) : SameStock m (Console.tell note m) :=
  ⟨rfl, rfl, .refl _, rfl, Nat.le_refl _, rfl⟩

theorem beside_refuse (m : Machine) (point : Entrypoint) (call : Call) (code : ResultCode) :
    Beside m [⟨call, .failed code⟩] (m.refuse point call code) :=
  beside_event (trace_refuse ..) rfl rfl rfl

/-- A bound buffer that is given back. -/
theorem beside_released (m : Machine) (b : BoundBuffer) :
    Beside m [⟨.destroyBuffer b.handle, .done⟩, ⟨.freeMemory b.memory, .done⟩]
      ((m.destroyed b.handle).freed b.memory) :=
  (beside_event (trace_destroyed ..) rfl rfl rfl).trans (beside_event (trace_freed ..) rfl rfl rfl)

theorem beside_without (m : Machine) (parts : List BoundBuffer) :
    Beside m (parts.flatMap fun b => [⟨.destroyBuffer b.handle, .done⟩, ⟨.freeMemory b.memory, .done⟩])
      (m.without parts) := by
  induction parts generalizing m with
  | nil => exact .refl m
  | cons b parts ih => exact (beside_released m b).trans (ih _)

/-- Two buffers that a machine has, with as much memory as they say, can be copied between. -/
theorem Owned.canCopy {source destination : BoundBuffer} (owned : m.Owned owners n) (hs : source ∈ owners)
    (hd : destination ∈ owners) (sourceSized : source.Sized m) (sized : destination.Sized m) {size : UInt64}
    (sourceEnough : size ≤ source.actualSize) (enough : size ≤ destination.actualSize) :
    m.CanCopy ⟨source.handle, destination.handle, ⟨0, 0, size⟩⟩ := by
  obtain ⟨bytes, hbytes⟩ := owned.live hs
  obtain ⟨target, htarget⟩ := owned.live hd
  refine ⟨_, _, bytes, target, owned.binding hs, owned.binding hd, hbytes, htarget, ?_, ?_⟩
  · rw [Bytes.fits, decide_eq_true_eq, sourceSized bytes hbytes, UInt64.toNat_zero, Nat.zero_add]
    exact sourceEnough
  · rw [Bytes.fits, decide_eq_true_eq, sized target htarget, UInt64.toNat_zero, Nat.zero_add]
    exact enough

end Machine

/-! ## Making a buffer -/

namespace BoundBuffer

variable {device : Device} {spec : BufferSpec} {more : List Event} {r : Except Failure BoundBuffer}

theorem Creation.beside (creation : Creation device spec m more r m') : Beside m more m' := by
  refine ⟨creation.trace, ?_, ?_, ?_⟩ <;> cases creation with
  | refused | homeless | unallocated | unbound => rfl
  | created _ _ _ _ labelled =>
    rw [labelled.annotated.frame]
    rfl

/-- A creation goes through, or halts at the call or the search that fails. -/
theorem Creation.halted (creation : Creation device spec m more r m') : Halted more r := by
  have smooth {event : Event} (accepted : event.fails = false) : ∀ e ∈ [event], e.fails = false :=
    List.forall_mem_singleton.2 accepted
  cases creation with
  | refused => exact .turnedDown rfl (List.forall_mem_nil _)
  | homeless =>
    exact @Halted.halted _ [_] [_] (.memoryType ..) _ (smooth rfl) rfl (List.forall_mem_singleton.2 rfl)
  | unallocated => exact .after (smooth rfl) (.turnedDown rfl (List.forall_mem_singleton.2 rfl))
  | unbound =>
    refine .after (smooth rfl) (.after (smooth rfl) (.turnedDown rfl ?_))
    exact List.forall_mem_cons.2 ⟨rfl, List.forall_mem_singleton.2 rfl⟩
  | created _ _ _ _ labelled =>
    refine .after (smooth rfl) (.after (smooth rfl) (.after (smooth rfl) (.through ?_ _)))
    exact fun event hmem => Event.not_fails_of_naming (labelled.naming event hmem)

theorem Creation.minor (creation : Creation device spec m more r m') : ∀ event ∈ more, event.Minor := by
  suffices uncounted : ∀ event ∈ more, event.call.isCounted = false from
    fun event hmem => Event.minor_of_call (uncounted event hmem)
  cases creation with
  | refused | homeless | unallocated | unbound => simp [Call.isCounted, BufferSpec.creating]
  | created _ _ _ _ labelled =>
    simp only [List.forall_mem_cons]
    exact ⟨rfl, rfl, rfl, fun event hmem => Call.not_isCounted_of_naming (labelled.naming event hmem)⟩

/-- Making a buffer is a course of work, and a buffer that was made has the memory that the machine
requires for it. -/
theorem ends_create_course (unladen : s.Unladen) (device : Device) (spec : BufferSpec) :
    (create device spec).Ends s.machine fun r m => (∃ more, Course s more 0 0 r ⟨m, s.pool⟩) ∧
      Making s.machine spec r m ∧
        ∀ b, r = .ok b → b.spec = spec ∧ b.actualSize = Machine.requirement s.machine.profile spec.size := by
  refine ((ends_create_creation device spec s.machine).and (ends_create_making device spec s.machine)).mono
    fun r m h => ?_
  obtain ⟨⟨more, creation⟩, making⟩ := h
  refine ⟨⟨more, unladen.course creation.beside creation.halted (fun event hmem => ?_) fun _ _ => ?_⟩, making, ?_⟩
  · exact ⟨(creation.minor event hmem).completes, (creation.minor event hmem).fenced⟩
  · exact (countP_of_minor creation.minor).2.2
  · rintro b rfl
    cases creation with
    | created => exact ⟨rfl, rfl⟩

/-- A range that is mapped, written and unmapped. -/
theorem beside_written (m : Machine) (b : BoundBuffer) (offset size : UInt64) (patch : ByteArray) :
    Beside m [⟨.mapMemory b.memory offset size, .done⟩, ⟨.unmapMemory b.memory, .done⟩]
      (written m b offset size patch) := by
  have overwritten (m : Machine) : Beside m [] (m.overwritten b.memory offset.toNat patch) := by
    unfold Machine.overwritten
    split <;> exact ⟨(List.append_nil _).symm, rfl, rfl, rfl⟩
  have mapped : Beside m _ (m.mapped b.memory offset size) :=
    Machine.beside_event (Machine.trace_mapped ..) rfl rfl rfl
  exact (mapped.trans (overwritten _)).trans (Machine.beside_event (Machine.trace_unmapped ..) rfl rfl rfl)

end BoundBuffer

namespace StagedBuffer

/-- A buffer that is given back, with its staging buffer. -/
theorem beside_farewell (b : StagedBuffer) (m : Machine) : Beside m b.farewell (m.without b.parts) :=
  Machine.beside_without m b.parts

theorem releases_farewell (b : StagedBuffer) : ∀ event ∈ b.farewell, event.releases = true := by
  intro event hmem
  obtain ⟨part, -, hmem⟩ := List.mem_flatMap.1 hmem
  simp only [List.mem_cons, List.not_mem_nil, or_false] at hmem
  obtain rfl | rfl := hmem <;> rfl

theorem ends_create_course (unladen : s.Unladen) (spec : BufferSpec) :
    (create spec).Ends s fun r s' => (∃ more, Course s more 0 0 r s') ∧
      match r with
      | .ok b => ∃ main, b = { main } ∧ BoundBuffer.Making s.machine spec (.ok main) s'.machine ∧ main.spec = spec ∧
          main.actualSize = Machine.requirement s.machine.profile spec.size
      | .error f => BoundBuffer.Making s.machine spec (.error f) s'.machine := by
  rw [create, ends_bind, ends_getPool]
  dsimp only
  rw [ends_bind, ends_lift]
  refine (BoundBuffer.ends_create_course unladen s.pool.device spec).mono fun r m h => ?_
  obtain ⟨⟨more, course⟩, making, sizes⟩ := h
  cases r with
  | error f => exact ⟨⟨more, course.fail 0⟩, making⟩
  | ok main =>
    obtain ⟨spec, size⟩ := sizes main rfl
    exact ⟨⟨more, course.value _⟩, main, rfl, making, spec, size⟩

/-! ## Filling a buffer -/

variable {b : StagedBuffer}

/-- Making a staging buffer and writing it is a course of work. -/
theorem ends_buildStaging_course (unladen : s.Unladen)
    (enough : b.requestedSize ≤ Machine.requirement s.machine.profile b.requestedSize) (contents : Contents) :
    (b.buildStaging contents).Ends s fun r s' => (∃ more, Course s more 0 1 r s') ∧
      ∀ staging, r = .ok staging → b.requestedSize ≤ staging.actualSize := by
  rw [buildStaging, ends_bind, ends_getPool]
  dsimp only
  rw [ends_bind, ends_lift]
  refine (BoundBuffer.ends_create_course unladen s.pool.device b.stagingSpec).mono fun r m h => ?_
  obtain ⟨⟨more, course⟩, making, sizes⟩ := h
  cases r with
  | error f => exact ⟨⟨more, course.fail 1⟩, by simp⟩
  | ok staging =>
    obtain ⟨-, size⟩ := sizes staging rfl
    have unladen := course.unladen staging rfl
    have asked : b.stagingSpec.size = b.requestedSize := by
      unfold stagingSpec
      cases b.main.spec.name <;> rfl
    have enough : b.requestedSize ≤ staging.actualSize := by
      rw [size, asked]
      exact enough
    have inside : (0 : UInt64).toNat + staging.reach 0 b.requestedSize ≤ staging.actualSize.toNat := by
      rw [← BoundBuffer.toNat_mappedSize, BoundBuffer.mappedSize_of_le enough, UInt64.toNat_zero, Nat.zero_add]
      exact enough
    dsimp only
    rw [ends_bind, ends_lift, ends_onFailure, ends_bind, BoundBuffer.ends_map_inside (live_of_making making) inside]
    cases m.fault .mapMemory with
    | some code =>
      dsimp only
      rw [BoundBuffer.ends_release]
      let call : Call := .mapMemory staging.memory 0 (staging.mappedSize 0 b.requestedSize)
      have refused : Course ⟨m, s.pool⟩ [⟨call, .failed code⟩] 0 1 (.error _ : Except Failure BoundBuffer)
          ⟨m.refuse .mapMemory call code, s.pool⟩ := unladen.course (Machine.beside_refuse ..)
        (.turnedDown rfl (List.forall_mem_nil _)) (List.forall_mem_singleton.2 ⟨rfl, rfl⟩) (by simp)
      have released := (course.trans refused).release (Machine.beside_released _ staging)
        (List.forall_mem_cons.2 ⟨rfl, List.forall_mem_singleton.2 rfl⟩)
      exact ⟨⟨_, released⟩, by simp⟩
    | none =>
      dsimp only
      rw [ends_bind, BoundBuffer.ends_write (contents.size_pattern _)]
      have written : Course ⟨m, s.pool⟩ _ 0 1 (.ok staging) _ := unladen.course
        (BoundBuffer.beside_written m staging 0 (staging.mappedSize 0 b.requestedSize)
          (contents.pattern (staging.mappedSize 0 b.requestedSize).toNat))
        (.through (List.forall_mem_cons.2 ⟨rfl, List.forall_mem_singleton.2 rfl⟩) staging)
        (List.forall_mem_cons.2 ⟨⟨rfl, rfl⟩, List.forall_mem_singleton.2 ⟨rfl, rfl⟩⟩) fun _ _ => rfl
      refine ⟨⟨_, course.trans written⟩, ?_⟩
      rintro _ ⟨⟩
      exact enough

/-- After a fill that discards the staging buffer, nothing is left but the buffer. -/
theorem Filled.discards {b' : StagedBuffer} {contents : Contents}
    (filled : Filled m b contents true b' (.ok ()) m') : b'.parts = [b.main] := by
  rw [← filled.main]
  cases filled with
  | uploaded _ _ _ keeps => cases keeps
  | discarded => exact parts_of_bare rfl

/-- A fill of a buffer that has no staging buffer, and keeps none. -/
theorem ends_fill_course (unladen : s.Unladen) (bare : b.staging = none)
    (owned : s.machine.Owned (b.main :: rest) n) (sized : b.main.Sized s.machine)
    (room : b.requestedSize ≤ b.main.actualSize)
    (enough : b.requestedSize ≤ Machine.requirement s.machine.profile b.requestedSize) (contents : Contents) :
    (b.fill contents true).Ends s fun r s' => ∃ b' result more, r = .ok (b', result) ∧
      Course s more (successes result) 1 result s' ∧ (result = .ok () → b'.stagingWrites = b.stagingWrites + 1) := by
  rw [ends_fill, ends_stage_bare bare]
  refine ((ends_buildStaging_course unladen enough contents).and (ends_buildStaging_building b contents s)).mono
    fun r s₁ h => ?_
  obtain ⟨⟨⟨more, built⟩, stagingRoom⟩, -, building⟩ := h
  cases r with
  | error f => exact ⟨_, _, more, rfl, built.fail 1, by simp⟩
  | ok staging =>
    have owned₁ : s₁.machine.Owned (staging :: b.main :: rest) n := owned.building building
    have sized₁ := sized.kept (owned.le List.mem_cons_self).2 building.extents
    have sound := owned₁.canCopy List.mem_cons_self (List.mem_cons_of_mem _ List.mem_cons_self) building.sized
      sized₁ (stagingRoom staging rfl) room
    dsimp only
    rw [upload_staged rfl]
    refine (ends_copyFrom_course (built.unladen staging rfl) sound).mono fun r s₂ h => ?_
    obtain ⟨more', copied⟩ := h
    have filled := built.trans copied
    cases r with
    | error f => exact ⟨_, _, _, rfl, filled, by simp⟩
    | ok _ =>
      dsimp only
      rw [if_pos rfl, ends_discardStaging rfl]
      have discarded := filled.release (Machine.beside_released s₂.machine staging)
        (List.forall_mem_cons.2 ⟨rfl, List.forall_mem_singleton.2 rfl⟩)
      exact ⟨_, _, _, rfl, discarded, fun _ => rfl⟩

end StagedBuffer

end CopyBench
