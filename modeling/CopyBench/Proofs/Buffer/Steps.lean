import CopyBench.Buffer.Workspace
import CopyBench.Proofs.Pool.Steps
/-!
# Steps on buffers

Making, mapping, writing and releasing buffers takes a machine from step to step, each a call on a
buffer or a memory or an octet written. With the steps of the pool and the recording of copies these
are all the steps that a workspace takes.
-/

namespace CopyBench

open CopyBench.Action

/-- Calls on buffers and their memories. -/
def Call.OnBuffers : Call → Prop
  | .createBuffer .. | .allocateMemory .. | .bindBufferMemory .. | .mapMemory .. | .unmapMemory ..
  | .destroyBuffer .. | .freeMemory .. | .nameObject .. => True
  | _ => False

namespace Machine

/-- A call on a buffer or a memory, a write, or a note. -/
inductive BufferStep : Machine → Machine → Prop where
  | told (m : Machine) (note : Note) : BufferStep m (Console.tell note m)
  | named (m : Machine) (objectType : UInt32) (handle : Handle) (name : String) :
    BufferStep m (m.named objectType handle name)
  | refused (m : Machine) (point : Entrypoint) {call : Call} (code : ResultCode) (on : call.OnBuffers) :
    BufferStep m (m.refuse point call code)
  | buffered (m : Machine) (size : UInt64) (usage : UInt32) (sharing : Int) :
    BufferStep m (m.buffered size usage sharing)
  | allocated (m : Machine) (size : UInt64) (memoryType : Nat) : BufferStep m (m.allocated size memoryType)
  | bound (m : Machine) (b memory : Handle) : BufferStep m (m.bound b memory)
  | mapped (m : Machine) (memory : Handle) (offset size : UInt64) : BufferStep m (m.mapped memory offset size)
  /-- A mapping that is counted and then refused, since the memory is not live. -/
  | unmappable (m : Machine) (memory : Handle) (offset size : UInt64) :
    BufferStep m (m.mapping.refuse .mapMemory (.mapMemory memory offset size) .mapFailed)
  | unmapped (m : Machine) (memory : Handle) : BufferStep m (m.unmapped memory)
  | overwritten (m : Machine) (memory : Handle) (offset : Nat) (patch : ByteArray) :
    BufferStep m (m.overwritten memory offset patch)
  | destroyed (m : Machine) (b : Handle) : BufferStep m (m.destroyed b)
  | freed (m : Machine) (memory : Handle) : BufferStep m (m.freed memory)

/-- Several steps on buffers. -/
abbrev BufferSteps : Machine → Machine → Prop := Relation.ReflTransGen BufferStep

/-- A step of the machine under a workspace. -/
inductive DeviceStep : Machine → Machine → Prop where
  | aside {m m' : Machine} (step : Step m m') : DeviceStep m m'
  | buffer {m m' : Machine} (step : BufferStep m m') : DeviceStep m m'
  | queued (m : Machine) (b : Handle) (copy : RecordedCopy) : DeviceStep m (m.queued b copy)

/-- Several steps under a workspace. -/
abbrev DeviceSteps : Machine → Machine → Prop := Relation.ReflTransGen DeviceStep

variable {m₀ m m' : Machine}

theorem Steps.device (steps : Steps m m') : DeviceSteps m m' :=
  Relation.ReflTransGen.mono (fun _ _ => .aside) _ _ steps

theorem BufferSteps.device (steps : BufferSteps m m') : DeviceSteps m m' :=
  Relation.ReflTransGen.mono (fun _ _ => .buffer) _ _ steps

theorem CopySteps.device {copy : RecordedCopy} (steps : m.CopySteps copy m') : DeviceSteps m m' := by
  obtain steps | ⟨m₁, b, before, -, after⟩ := steps
  · exact steps.device
  · exact (before.device.tail (.queued m₁ b copy)).trans after.device

theorem maintains_told (level : Level) (message : String) :
    Maintains (BufferSteps m₀) (log level message) :=
  .log (fun note m steps => steps.tail (.told m note)) level message

theorem maintains_createBuffer (size : UInt64) (usage : UInt32) (sharing : Int) :
    Maintains (BufferSteps m₀) (createBuffer size usage sharing) := fun m steps => by
  rw [ends_createBuffer]
  cases m.fault .createBuffer with
  | some code => exact steps.tail (.refused _ _ _ trivial)
  | none => exact steps.tail (.buffered ..)

theorem maintains_allocateMemory (size : UInt64) (memoryType : Nat) :
    Maintains (BufferSteps m₀) (allocateMemory size memoryType) := fun m steps => by
  rw [ends_allocateMemory]
  cases m.fault .allocateMemory with
  | some code => exact steps.tail (.refused _ _ _ trivial)
  | none => exact steps.tail (.allocated ..)

theorem maintains_bindBufferMemory (b memory : Handle) :
    Maintains (BufferSteps m₀) (bindBufferMemory b memory) := fun m steps => by
  rw [ends_bindBufferMemory]
  cases m.fault .bindBufferMemory with
  | some code => exact steps.tail (.refused _ _ _ trivial)
  | none => exact steps.tail (.bound ..)

theorem maintains_mapMemory (memory : Handle) (offset size : UInt64) :
    Maintains (BufferSteps m₀) (mapMemory memory offset size) := fun m steps => by
  rw [ends_mapMemory]
  cases m.fault .mapMemory with
  | some code => exact steps.tail (.refused _ _ _ trivial)
  | none =>
    dsimp only
    split
    · exact steps.tail (.mapped ..)
    · exact steps.tail (.unmappable ..)

theorem maintains_named (device : Device) (objectType : UInt32) (handle : Handle) (name : String) :
    Maintains (BufferSteps m₀) (device.nameObject objectType handle name) := by
  have attached : Maintains (BufferSteps m₀) (nameObject objectType handle name) := fun m steps => by
    rw [ends_nameObject]
    cases m.fault .nameObject with
    | some code => exact steps.tail (.refused _ _ _ trivial)
    | none => exact steps.tail (.named ..)
  unfold Device.nameObject
  rcases device.route with _ | _ | _
  · exact attached
  · exact .pure _
  · exact .ite ((maintains_told _ _).bind fun _ => .pure _) attached

theorem maintains_unmapMemory (memory : Handle) : Maintains (BufferSteps m₀) (unmapMemory memory) :=
  fun m steps => steps.tail (.unmapped m memory)

theorem maintains_destroyBuffer (b : Handle) : Maintains (BufferSteps m₀) (destroyBuffer b) :=
  fun m steps => steps.tail (.destroyed m b)

theorem maintains_freeMemory (memory : Handle) : Maintains (BufferSteps m₀) (freeMemory memory) :=
  fun m steps => steps.tail (.freed m memory)

end Machine

open Machine (BufferSteps DeviceSteps)

variable {m₀ : Machine}

namespace BoundBuffer

theorem maintains_attachName (device : Device) (handle : Handle) (name : String) :
    Maintains (BufferSteps m₀) (attachName device handle name) := by
  refine (Machine.maintains_named device _ handle name).bind fun r => ?_
  cases r with
  | ok _ => exact .pure _
  | error code => exact Machine.maintains_told _ _

theorem maintains_allocate (device : Device) (size : UInt64) (typeBits required : UInt32) :
    Maintains (BufferSteps m₀) (allocate device size typeBits required) := by
  unfold allocate
  cases MemoryType.find? device.memoryTypes typeBits required with
  | none => exact .fail _
  | some memoryType => exact (Machine.maintains_allocateMemory size memoryType).orFatal _

theorem maintains_release (b : BoundBuffer) : Maintains (BufferSteps m₀) b.release :=
  (Machine.maintains_destroyBuffer b.handle).bind fun _ => Machine.maintains_freeMemory b.memory

theorem maintains_create (device : Device) (spec : BufferSpec) :
    Maintains (BufferSteps m₀) (create device spec) := by
  refine ((Machine.maintains_createBuffer _ _ _).orFatal _).bind fun handle => ?_
  have asked : Maintains (BufferSteps m₀) (Machine.memoryRequirement handle) := fun _ steps => steps
  refine asked.bind fun required => ?_
  refine ((maintains_allocate device _ _ _).onFailure (Machine.maintains_destroyBuffer handle)).bind
    fun memory => ?_
  refine (((Machine.maintains_bindBufferMemory handle memory).orFatal _).onFailure
    ((Machine.maintains_destroyBuffer handle).bind fun _ => Machine.maintains_freeMemory memory)).bind
    fun _ => ?_
  cases spec.name with
  | none => exact (Machine.maintains_told _ _).bind fun _ => .pure _
  | some name =>
    exact (maintains_attachName device handle name).bind fun _ =>
      (Machine.maintains_told _ _).bind fun _ => .pure _

theorem maintains_map (b : BoundBuffer) (offset size : UInt64) :
    Maintains (BufferSteps m₀) (b.map offset size) := by
  unfold map
  exact .ite (((Machine.maintains_mapMemory b.memory offset _).orOperational _).bind fun _ => .pure _) (.fail _)

end BoundBuffer

namespace MappedRange

variable (range : MappedRange)

theorem maintains_read : Maintains (BufferSteps m₀) range.read := fun _ steps => steps

theorem maintains_write (bytes : ByteArray) : Maintains (BufferSteps m₀) (range.write bytes) := fun m steps => by
  rw [write, Machine.ends_overwrite]
  exact steps.tail (.overwritten m range.memory _ _)

theorem maintains_unmap : Maintains (BufferSteps m₀) range.unmap := Machine.maintains_unmapMemory range.memory

end MappedRange

/-- A property of sessions that calls on buffers keep. -/
def Session.BufferStable (J : Session → Prop) : Prop :=
  ∀ s m, BufferSteps s.machine m → J s → J { s with machine := m }

/-- What is done with buffers keeps such a property. -/
theorem Session.BufferStable.lift {α : Type} {J : Session → Prop} {act : Action Machine α}
    (stable : BufferStable J) (h : ∀ m₀, Maintains (BufferSteps m₀) act) : Maintains J (liftM act) := fun s hs => by
  rw [ends_lift]
  exact (h s.machine s.machine .refl).mono fun _ m steps => stable s m steps hs

namespace StagedBuffer

variable {J : Session → Prop} (stable : Session.BufferStable J)

theorem maintains_release (buffer : StagedBuffer) : Maintains (BufferSteps m₀) buffer.release := by
  unfold release
  cases buffer.staging with
  | none => exact BoundBuffer.maintains_release buffer.main
  | some staging =>
    exact (BoundBuffer.maintains_release staging).bind fun _ => BoundBuffer.maintains_release buffer.main

include stable

theorem maintains_create (spec : BufferSpec) : Maintains J (create spec) :=
  Maintains.bind (fun _ h => h) fun pool =>
    (stable.lift fun _ => BoundBuffer.maintains_create pool.device spec).bind fun _ => .pure _

theorem maintains_buildStaging (buffer : StagedBuffer) (contents : Contents) :
    Maintains J (buffer.buildStaging contents) := by
  refine Maintains.bind (fun _ h => h) fun pool =>
    (stable.lift fun _ => BoundBuffer.maintains_create pool.device buffer.stagingSpec).bind fun staging => ?_
  refine (stable.lift fun _ => Maintains.onFailure ?_ (BoundBuffer.maintains_release staging)).bind
    fun _ => .pure _
  exact (BoundBuffer.maintains_map staging 0 _).bind fun range =>
    (MappedRange.maintains_write range _).bind fun _ => MappedRange.maintains_unmap range

theorem maintains_stage (buffer : StagedBuffer) (contents : Contents) :
    Maintains J (buffer.stage contents) := by
  unfold stage
  cases buffer.staging with
  | some staging => exact .pure _
  | none => exact (maintains_buildStaging stable buffer contents).bind fun _ => .pure _

theorem maintains_discardStaging (buffer : StagedBuffer) : Maintains J buffer.discardStaging := by
  unfold discardStaging
  cases buffer.staging with
  | none => exact .pure _
  | some staging => exact (stable.lift fun _ => BoundBuffer.maintains_release staging).bind fun _ => .pure _

end StagedBuffer

/-! ## What holds throughout -/

namespace Session

/-- A property of sessions that calls on buffers keep, and copies between buffers. -/
structure Upheld (J : Session → Prop) : Prop where
  stable : BufferStable J
  copies : ∀ buffer source region wait, Maintains J (StagedBuffer.copyFrom buffer source region wait)

theorem upheld_steps (m₀ : Machine) : Upheld fun s => DeviceSteps m₀ s.machine where
  stable _ _ more steps := steps.trans more.device
  copies buffer source region wait s steps :=
    (StagedBuffer.ends_copyFrom_steps buffer source region wait s).mono fun _ _ h => steps.trans h.1.device

/-- A fill is made of calls on buffers and a copy. -/
theorem Upheld.fill {J : Session → Prop} (h : Upheld J) (buffer : StagedBuffer) (contents : Contents)
    (discard : Bool) : Maintains J (buffer.fill contents discard) := by
  refine (StagedBuffer.maintains_stage h.stable buffer contents).attempt.bind fun staged => ?_
  cases staged with
  | error f => exact .pure _
  | ok buffer =>
    have uploads : Maintains J buffer.upload := by
      unfold StagedBuffer.upload
      cases buffer.staging with
      | none => exact .pure _
      | some staging => exact h.copies _ _ _ _
    refine uploads.attempt.bind fun uploaded => ?_
    cases uploaded with
    | error f => exact .pure _
    | ok _ =>
      exact .ite ((StagedBuffer.maintains_discardStaging h.stable buffer).bind fun _ => .pure _) (.pure _)

end Session

end CopyBench
