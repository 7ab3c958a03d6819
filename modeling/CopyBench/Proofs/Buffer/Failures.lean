import CopyBench.Proofs.Buffer.Creation
import CopyBench.Proofs.Buffer.Steps
import CopyBench.Proofs.Pool.Failures
/-!
# What calls on buffers fail with

Making a buffer fails with a misconfiguration, and everything else that is done with buffers fails with less.
Only a fill makes a buffer, its staging buffer, and passes on why that cannot be made.
-/

namespace CopyBench

open CopyBench.Action

variable {P : Failure → Prop}

/-- A panic, or why a range could not be mapped. -/
def Failure.Unmapped : Failure → Prop
  | error (.mapRange ..) => True
  | f => f.Operational

theorem Failure.Unmapped.mild {f : Failure} (h : f.Unmapped) : f.Mild := by
  rcases f with e | p
  · cases e with
    | mapRange => rfl
    | configuration | slotAlreadyOpen | slotNotOpen | slotOutOfRange | flushFailed | vulkan =>
      exact Operational.mild h
  · trivial

namespace BoundBuffer

theorem raises_attachName (device : Device) (handle : Handle) (name : String) :
    Raises P (attachName device handle name) := by
  refine (Device.raises_nameObject device _ handle name).bind fun answer => ?_
  cases answer with
  | ok _ => exact .pure _
  | error code => exact .log _ _

theorem raises_release (b : BoundBuffer) : Raises P b.release :=
  (Machine.raises_destroyBuffer b.handle).bind fun _ => Machine.raises_freeMemory b.memory

theorem raises_allocate (device : Device) (size : UInt64) (typeBits required : UInt32) :
    Raises Failure.Misconfigured (allocate device size typeBits required) := by
  unfold allocate
  cases MemoryType.find? device.memoryTypes typeBits required with
  | none => exact .fail trivial
  | some memoryType => exact Raises.orFatal (Machine.raises_make _ _ _) fun _ => trivial

theorem raises_create (device : Device) (spec : BufferSpec) : Raises Failure.Misconfigured (create device spec) := by
  refine (Raises.orFatal (Machine.raises_make _ _ _) fun _ => trivial).bind fun handle => ?_
  refine Raises.bind (fun _ => nofun) fun required => ?_
  refine ((raises_allocate device _ _ _).onFailure (Machine.raises_destroyBuffer handle)).bind fun memory => ?_
  refine Raises.bind (.onFailure ?_ ?_) fun _ => ?_
  · exact Raises.orFatal (Machine.raises_affect _ _ _) fun _ => trivial
  · exact (Machine.raises_destroyBuffer handle).bind fun _ => Machine.raises_freeMemory memory
  cases spec.name with
  | none => exact Raises.bind (.log _ _) fun _ => .pure _
  | some name => exact (raises_attachName device handle name).bind fun _ => Raises.bind (.log _ _) fun _ => .pure _

/-- A buffer gets as much memory as the machine says it needs. -/
theorem ends_create_size (device : Device) (spec : BufferSpec) (m : Machine) :
    (create device spec).Ends m fun r _ => ∀ b, r = .ok b →
      b.actualSize = Machine.requirement m.profile spec.size := by
  refine (ends_create_creation device spec m).mono fun r m' h => ?_
  obtain ⟨more, creation⟩ := h
  rintro b rfl
  cases creation with
  | created => rfl

/-- A range cannot be mapped when it does not lie in the memory, or when the device refuses it. -/
theorem raises_map (b : BoundBuffer) (offset size : UInt64) : Raises Failure.Unmapped (b.map offset size) :=
  .ite (Raises.bind (Raises.orOperational (Machine.raises_mapMemory _ _ _) fun _ => trivial) fun _ => .pure _)
    (.fail trivial)

/-- A range that the memory has room for can be mapped, unless the device refuses it. -/
theorem raises_map_front {b : BoundBuffer} {size : UInt64} (enough : size ≤ b.actualSize) :
    Raises Failure.Operational (b.map 0 size) := by
  unfold map
  rw [mappedSize_of_le enough]
  have fits : b.covers 0 size = true := by
    rw [covers_iff, show (0 : UInt64).toNat = 0 from rfl, Nat.zero_add]
    exact enough
  rw [if_pos fits]
  exact Raises.bind (Raises.orOperational (Machine.raises_mapMemory _ _ _) fun _ => trivial) fun _ => .pure _

end BoundBuffer

namespace StagedBuffer

variable {s : Session} {b : StagedBuffer}

theorem raises_create (spec : BufferSpec) : Raises Failure.Misconfigured (create spec) :=
  Session.raises_getPool.bind fun pool =>
    (Session.raises_lift (BoundBuffer.raises_create pool.device spec)).bind fun _ => .pure _

theorem raises_copyFrom (buffer source : BoundBuffer) (region : Region) (wait : Bool) :
    Raises Failure.Mild (copyFrom buffer source region wait) :=
  Session.raises_acquire.bind fun _ =>
    (Session.raises_lift (Machine.raises_copyBuffer _ _ _ _)).bind fun _ => Session.raises_close _ _

/-- A copy goes through a slot that is there, so it fails only when a device call does. -/
theorem ends_copyFrom_operational (ring : s.pool.cursor < s.pool.slots.length) (buffer source : BoundBuffer)
    (region : Region) (wait : Bool) :
    (copyFrom buffer source region wait).Ends s fun r _ => ∀ f, r = .error f → f.Operational := by
  rw [ends_copyFrom]
  refine ((Session.ends_acquire_operational ring).and (Session.ends_acquire_steps .refl)).mono fun r s₁ h => ?_
  obtain ⟨operational, -, opened⟩ := h
  rcases r with f | ⟨index, commandBuffer⟩
  · rintro _ ⟨⟩
    exact operational f rfl
  · exact Session.ends_flush_operational
      (s := { s₁ with machine := s₁.machine.queued commandBuffer ⟨source.handle, buffer.handle, region⟩ })
      (opened index commandBuffer rfl).2.slot wait

/-- What can be wrong with a fill in a session: a device call failed; or there was no staging buffer and it
could not be made, or the memory it got is too small. -/
inductive Unfilled (s : Session) (b : StagedBuffer) : Error → Prop where
  | device (call : String) (code : ResultCode) : Unfilled s b (.vulkan call code)
  | unmade {cause : Misconfiguration} (bare : b.staging = none)
      (making : (BoundBuffer.create s.pool.device b.stagingSpec).Ends s.machine fun r _ =>
        r = .error (.error (.configuration cause))) :
    Unfilled s b (.configuration cause)
  | tight {offset size capacity : UInt64} (bare : b.staging = none)
      (small : Machine.requirement s.machine.profile b.requestedSize < b.requestedSize) :
    Unfilled s b (.mapRange offset size capacity)

theorem unfilled_of_operational {e : Error} (h : (Failure.error e).Operational) : Unfilled s b e := by
  obtain ⟨call, code, rfl⟩ := h.exists_code
  exact .device call code

/-- Writing the staging buffer, which is released when that fails. -/
theorem raises_writing {staging : BoundBuffer} (contents : Contents) (size : UInt64)
    (h : Raises P (staging.map 0 size)) :
    Raises P (Action.onFailure (do
      let range ← staging.map 0 size
      range.write (contents.pattern range.size.toNat)
      range.unmap) staging.release : Action Machine Unit) :=
  .onFailure (h.bind fun _ => Raises.bind (.modify _) fun _ => Machine.raises_unmapMemory _)
    (BoundBuffer.raises_release staging)

theorem ends_stage_failures (b : StagedBuffer) (contents : Contents) (s : Session) :
    (b.stage contents).Ends s fun r _ => ∀ e, r = .error (.error e) → Unfilled s b e := by
  cases bare : b.staging with
  | some staging =>
    rw [ends_stage_staged bare]
    exact nofun
  | none =>
    rw [ends_stage_bare bare, buildStaging, ends_bind, Session.ends_getPool]
    dsimp only
    rw [ends_bind, Session.ends_lift]
    refine (((BoundBuffer.raises_create s.pool.device b.stagingSpec s.machine).and
      (BoundBuffer.ends_create_size s.pool.device b.stagingSpec s.machine)).and (ends_self _ _)).mono fun r m h => ?_
    obtain ⟨⟨misconfigured, room⟩, self⟩ := h
    rcases r with (e | p) | staging
    · rintro _ ⟨⟩
      obtain ⟨cause, rfl⟩ := (misconfigured _ rfl).exists_cause
      exact .unmade bare (self.mono fun _ _ h => h.1)
    · exact nofun
    · have size : staging.actualSize = Machine.requirement s.machine.profile b.requestedSize := by
        rw [room staging rfl]
        unfold stagingSpec
        cases b.main.spec.name <;> rfl
      dsimp only
      rw [ends_bind, Session.ends_lift]
      have fault (e : Error) (h : (Failure.error e).Unmapped) (large : ¬b.requestedSize ≤ staging.actualSize) :
          Unfilled s b e := by
        cases e with
        | vulkan call code => exact .device call code
        | mapRange => exact .tight bare (UInt64.not_le.1 (size ▸ large))
        | configuration | slotAlreadyOpen | slotNotOpen | slotOutOfRange | flushFailed => exact h.elim
      -- A machine may say that a buffer needs less memory than its size.
      by_cases enough : b.requestedSize ≤ staging.actualSize
      · refine (raises_writing contents _ (BoundBuffer.raises_map_front enough) m).mono fun r m' h => ?_
        rcases r with (e | p) | _
        · rintro _ ⟨⟩
          exact unfilled_of_operational (h _ rfl)
        · exact nofun
        · exact nofun
      · refine (raises_writing contents _ (staging.raises_map 0 b.requestedSize) m).mono fun r m' h => ?_
        rcases r with (e | p) | _
        · rintro _ ⟨⟩
          exact fault e (h _ rfl) enough
        · exact nofun
        · exact nofun

theorem raises_discardStaging (b : StagedBuffer) : Raises P b.discardStaging := by
  unfold discardStaging
  cases b.staging with
  | none => exact .pure _
  | some staging => exact (Session.raises_lift (BoundBuffer.raises_release staging)).bind fun _ => .pure _

/-- A fill fails only for the reasons above. -/
theorem ends_fill_failures (ring : s.pool.cursor < s.pool.slots.length) (b : StagedBuffer) (contents : Contents)
    (discard : Bool) :
    (b.fill contents discard).Ends s fun r _ => ∃ b' result, r = .ok (b', result) ∧
      ∀ e, result = .error (.error e) → Unfilled s b e := by
  rw [ends_fill]
  have ringed := maintains_stage (Session.upheld_keeps s.pool).stable b contents s (.refl _)
  refine ((ends_stage_failures b contents s).and ringed).mono fun r s₁ h => ?_
  obtain ⟨failures, keeps⟩ := h
  cases r with
  | error f =>
    refine ⟨_, _, rfl, ?_⟩
    rintro e ⟨⟩
    exact failures e rfl
  | ok b' =>
    have uploaded : b'.upload.Ends s₁ fun r _ => ∀ e, r = .error (.error e) → Unfilled s b e := by
      unfold upload
      cases b'.staging with
      | none => exact nofun
      | some staging =>
        refine (ends_copyFrom_operational (keeps.cursor ring) _ _ _ _).mono fun r _ h e hr => ?_
        exact unfilled_of_operational (h _ hr)
    refine uploaded.mono fun r s₂ h => ?_
    cases r with
    | error f => exact ⟨_, _, rfl, fun e he => h e (by rw [Except.error.inj he])⟩
    | ok _ =>
      dsimp only
      split
      · refine (raises_discardStaging (P := fun _ => False) b' s₂).mono fun r _ h => ?_
        cases r with
        | error f => exact (h f rfl).elim
        | ok b'' => exact ⟨_, _, rfl, nofun⟩
      · exact ⟨_, _, rfl, nofun⟩

end StagedBuffer

end CopyBench
