import CopyBench.Proofs.Buffer.Refinement
import CopyBench.Proofs.Buffer.Steps
/-!
# Runs of a workspace

A run starts from a pool that was just made on a new machine and holds no buffers. It performs requests
one after another, whatever becomes of each, and in between maps ranges of buffers that are held, writes
into those that are open, and unmaps them. A run also remembers which fill built the staging buffer that
a name keeps.
-/

namespace CopyBench

open CopyBench.Action

open Machine (BufferSteps DeviceSteps)

-- Irreducible, so that no tactic starts to run what is done under it. The kernel does.
/-- The device is lost at the first call of an entrypoint, and at no other. -/
@[irreducible] def Schedule.losesFirst (point : Entrypoint) : Schedule := .ofRules [{ point }]

/-- A request that copies between buffers. -/
def BufferRequest.Copies : BufferRequest → Prop
  | fill .. | copy .. => True
  | create .. | read .. | write .. | inspect _ | release _ | attachName .. | onPool _ => False

namespace Workspace

/-- A workspace without buffers, whose pool was just made on a new machine, with any memory layout and
any schedule of failures. -/
structure New (w : Workspace) : Prop where
  bare : w.buffers = {}
  created : ∃ profile schedule lostSubmits lostWaits device queue depth family level,
    CommandPool.create device queue depth family level { profile, schedule, lostSubmits, lostWaits } =
      .ok w.session.pool w.session.machine

/-- A range of a buffer that is held is mapped, and stays open. -/
def openRange (name : String) (offset size : UInt64) : Action Workspace (Option MappedRange) := do
  match ← held name with
  | none => pure none
  | some buffer => do
    let range ← onSession (Session.onMachine (buffer.main.map offset size))
    pure (some range)

/-- Bytes are written through a range that is open. -/
def writeOpen (range : MappedRange) (bytes : ByteArray) : Action Workspace Unit :=
  onSession (Session.onMachine (range.write bytes))

/-- A range that is open is closed. -/
def closeRange (range : MappedRange) : Action Workspace Unit := onSession (Session.onMachine range.unmap)

/-- For each name, the contents of the fill that built the staging buffer which is kept under it, after
one more request that led to `w`. -/
def keptAfter (kept : String → Option Contents) (request : BufferRequest) (w : Workspace) (name : String) :
    Option Contents :=
  match (w.buffers.get? name).bind (·.staging), request with
  | none, _ => none
  | some _, .fill filled contents _ =>
    if filled = name then some ((kept name).getD contents) else kept name
  | some _, _ => kept name

/-- A workspace in the course of a run, with the ranges that are open and the contents of the staging
buffers that are kept. -/
structure Run where
  workspace : Workspace
  ranges : List MappedRange := []
  kept : String → Option Contents := fun _ => none

namespace Run

/-- A run after one more request, however it ends. -/
def performed (run : Run) (request : BufferRequest) : Run :=
  let w := (perform request).finalState run.workspace
  ⟨w, run.ranges, keptAfter run.kept request w⟩

/-- A step between requests: a range is opened, written or closed. -/
inductive Ranging (run : Run) : Run → Prop where
  | opened {name : String} {offset size : UInt64} {range : MappedRange} {w : Workspace}
      (maps : openRange name offset size run.workspace = .ok (some range) w) :
    Ranging run ⟨w, range :: run.ranges, run.kept⟩
  | unopened {name : String} {offset size : UInt64} {f : Failure} {w : Workspace}
      (fails : openRange name offset size run.workspace = .error f w) : Ranging run ⟨w, run.ranges, run.kept⟩
  | written {range : MappedRange} (mem : range ∈ run.ranges) (bytes : ByteArray) :
    Ranging run ⟨(writeOpen range bytes).finalState run.workspace, run.ranges, run.kept⟩
  | closed {range : MappedRange} (mem : range ∈ run.ranges) :
    Ranging run ⟨(closeRange range).finalState run.workspace, run.ranges.erase range, run.kept⟩

/-- One step of a run: a request is performed, or something is done with a range. -/
inductive Step (run : Run) : Run → Prop where
  | perform (request : BufferRequest) : Step run (run.performed request)
  | range {run' : Run} (ranging : Ranging run run') : Step run run'

/-- Several steps of a run. -/
abbrev Steps : Run → Run → Prop := Relation.ReflTransGen Step

/-- What every step preserves, a run preserves. -/
theorem Steps.preserve {I : Run → Prop} (step : ∀ run run', Step run run' → I run → I run') {run run' : Run}
    (steps : Steps run run') (h : I run) : I run' := by
  induction steps with
  | refl => exact h
  | tail _ last ih => exact step _ _ last ih

/-- Requests that are performed one after another are a run. -/
theorem steps_foldl (requests : List BufferRequest) (run : Run) : Steps run (requests.foldl performed run) := by
  induction requests generalizing run with
  | nil => exact .refl
  | cons request requests ih => exact .head (.perform request) (ih _)

end Run

variable {α : Type} {J : Session → Prop}

/-! ## What holds throughout a run -/

theorem maintains_onSession {act : Action Session α} (h : Maintains J act) :
    Maintains (fun w : Workspace => J w.session) (onSession act) := fun w hw => by
  rw [ends_onSession]
  exact h w.session hw

/-- What is done with the buffer held under a name, if there is one. -/
theorem maintains_held_cases {name : String} {f : Option StagedBuffer → Action Workspace α}
    (absent : Maintains (fun w : Workspace => J w.session) (f none))
    (found : ∀ b, Maintains (fun w : Workspace => J w.session) (f (some b))) :
    Maintains (fun w : Workspace => J w.session) (held name >>= f) :=
  fun w hw => ends_held_cases (fun _ => absent w hw) fun b _ => found b w hw

theorem maintains_hold (name : String) (buffer : StagedBuffer) :
    Maintains (fun w : Workspace => J w.session) (hold name buffer) := fun _ hw => hw

section Stable

variable (stable : Session.BufferStable J)
include stable

theorem maintains_onMachine {work : Action Machine α} (h : ∀ m₀, Maintains (BufferSteps m₀) work) :
    Maintains (fun w : Workspace => J w.session) (onSession (Session.onMachine work)) :=
  maintains_onSession (stable.lift h)

theorem maintains_withRange (buffer : StagedBuffer) (offset size : UInt64)
    {use : MappedRange → Action Machine α} (h : ∀ range m₀, Maintains (BufferSteps m₀) (use range)) :
    Maintains (fun w : Workspace => J w.session) (withRange buffer offset size use) :=
  maintains_onMachine stable fun m₀ => (BoundBuffer.maintains_map buffer.main offset size).bind fun range =>
    (h range m₀).ensuring (MappedRange.maintains_unmap range)

theorem maintains_releaseBuffer (buffer : StagedBuffer) :
    Maintains (fun w : Workspace => J w.session) (releaseBuffer buffer) :=
  maintains_onMachine stable fun _ => StagedBuffer.maintains_release buffer

/-- Every request keeps what calls on buffers keep, if a copy that it makes and an operation of the pool that it
asks for keep it. -/
theorem maintains_perform (request : BufferRequest)
    (copies : request.Copies → ∀ buffer source region wait,
      Maintains J (StagedBuffer.copyFrom buffer source region wait))
    (pools : ∀ operation, request = .onPool operation → Maintains J (Session.perform operation)) :
    Maintains (fun w : Workspace => J w.session) (perform request) := by
  cases request with
  | create name spec =>
    refine (maintains_onSession (StagedBuffer.maintains_create stable spec)).bind fun buffer => ?_
    refine maintains_held_cases ((maintains_hold name buffer).bind fun _ => .pure _) fun replaced => ?_
    exact (maintains_hold name buffer).bind fun _ => (maintains_releaseBuffer stable replaced).bind fun _ => .pure _
  | fill name contents discard =>
    have upheld : Session.Upheld J := ⟨stable, copies trivial⟩
    refine maintains_held_cases (.pure _) fun buffer => Maintains.bind ?_ fun _ => .pure _
    exact (maintains_onSession (upheld.fill buffer contents discard)).bind fun filled =>
      (maintains_hold name filled.1).bind fun _ => .conclude filled.2
  | copy name source region wait =>
    refine maintains_held_cases (maintains_held_cases (.pure _) fun _ => .pure _) fun buffer => ?_
    refine maintains_held_cases (.pure _) fun source => ?_
    exact (maintains_onSession (copies trivial _ _ _ _)).bind fun _ => .pure _
  | read name offset size =>
    refine maintains_held_cases (.pure _) fun buffer => ?_
    exact (maintains_withRange stable buffer offset size fun range _ => range.maintains_read).bind fun _ => .pure _
  | write name offset size filling =>
    refine maintains_held_cases (.pure _) fun buffer => ?_
    exact maintains_withRange stable buffer offset size fun range _ =>
      (range.maintains_write _).bind fun _ => .pure _
  | inspect name => exact maintains_held_cases (.pure _) fun _ => .pure _
  | release name =>
    refine maintains_held_cases (.pure _) fun buffer => Maintains.bind (.modify fun _ h => h) fun _ => ?_
    exact (maintains_releaseBuffer stable buffer).bind fun _ => .pure _
  | attachName handle text =>
    refine Maintains.bind (maintains_onSession ?_) fun _ => .pure _
    exact Maintains.bind (fun _ h => h) fun pool =>
      (stable.lift fun _ => Machine.maintains_named pool.device _ handle text).orOperational _
  | onPool operation => exact (maintains_onSession (pools operation rfl)).bind fun _ => .pure _

theorem maintains_openRange (name : String) (offset size : UInt64) :
    Maintains (fun w : Workspace => J w.session) (openRange name offset size) := by
  refine maintains_held_cases (.pure _) fun buffer => ?_
  exact (maintains_onMachine stable fun _ => BoundBuffer.maintains_map buffer.main offset size).bind fun _ => .pure _

theorem maintains_writeOpen (range : MappedRange) (bytes : ByteArray) :
    Maintains (fun w : Workspace => J w.session) (writeOpen range bytes) :=
  maintains_onMachine stable fun _ => range.maintains_write bytes

theorem maintains_closeRange (range : MappedRange) :
    Maintains (fun w : Workspace => J w.session) (closeRange range) :=
  maintains_onMachine stable fun _ => range.maintains_unmap

theorem Run.Ranging.maintain {run run' : Run} (ranging : Run.Ranging run run') (h : J run.workspace.session) :
    J run'.workspace.session := by
  cases ranging with
  | opened maps => exact (ends_of_ok maps).1 (maintains_openRange stable _ _ _ _ h)
  | unopened fails => exact (ends_of_error fails).1 (maintains_openRange stable _ _ _ _ h)
  | @written range mem bytes => exact (maintains_writeOpen stable range bytes).finalState h
  | @closed range mem => exact (maintains_closeRange stable range).finalState h

end Stable

/-- A run keeps what calls on buffers, copies and requests to the pool keep. -/
theorem Run.Steps.maintain {run run' : Run} (upheld : Session.Upheld J)
    (pools : ∀ operation, Maintains J (Session.perform operation)) (steps : Run.Steps run run')
    (h : J run.workspace.session) : J run'.workspace.session := by
  refine steps.preserve (I := fun run => J run.workspace.session) ?_ h
  rintro run run' step ih
  cases step with
  | perform request =>
    exact (maintains_perform upheld.stable request (fun _ => upheld.copies)
      fun operation _ => pools operation).finalState ih
  | range ranging => exact ranging.maintain upheld.stable ih

/-- A run takes the machine from step to step. -/
theorem Run.Steps.device {run run' : Run} (steps : Run.Steps run run') :
    DeviceSteps run.workspace.session.machine run'.workspace.session.machine :=
  steps.maintain (Session.upheld_steps run.workspace.session.machine) (fun operation s steps =>
    (Session.maintains_perform operation s .refl).mono fun _ _ more => steps.trans (Machine.Steps.device more)) .refl

/-- A new workspace on a machine with memory of both kinds, with `depth` command buffers. -/
def hosted (m : Machine) (depth : Nat) : Workspace :=
  opened m { memoryTypes := [MemoryProperty.deviceLocal, 6] } 1 depth 0 0

theorem new_unfenced {depth : Nat} (some : 0 < depth) :
    (hosted { schedule := .losesFirst .createFence } depth).New where
  bare := rfl
  created := ⟨_, _, _, _, _, 1, _, 0, 0, CommandPool.create_ok rfl 1 some 0 0 (by decide +kernel) (by decide +kernel)⟩

end Workspace

end CopyBench
