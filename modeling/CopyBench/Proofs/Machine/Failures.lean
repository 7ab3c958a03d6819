import CopyBench.Machine.Device
import CopyBench.Proofs.Machine.Answers
import CopyBench.Proofs.Raising
/-!
# What device calls fail with

A device call answers with a code when it fails, and raises no error. Only a submission, and the wait for a
fence, can break down.
-/

namespace CopyBench

open CopyBench.Action

variable {α : Type} {P : Failure → Prop}

namespace Machine

theorem raises_count (f : Counters → Counters) : Raises P (count f) := .modify _

theorem raises_record (call : Call) (reply : Reply) : Raises P (record call reply) := .modify _

theorem raises_nextFault (point : Entrypoint) : Raises P (nextFault point) := fun _ => nofun

theorem raises_invoke {point : Entrypoint} {call : Call} {shown : α → Reply}
    {work : Action Machine (Except ResultCode α)} (h : Raises P work) : Raises P (invoke point call shown work) :=
  fun m => by
    rw [ends_invoke]
    cases m.fault point with
    | some code => exact nofun
    | none =>
      refine (h _).mono fun r m' hr => ?_
      rcases r with f | code | a
      · exact hr
      · exact nofun
      · exact nofun

theorem raises_affect (point : Entrypoint) (call : Call) (change : Machine → Machine) :
    Raises P (affect point call change) :=
  raises_invoke ((Raises.modify _).bind fun _ => .pure _)

theorem raises_make (point : Entrypoint) (call : Call) (keep : Handle → Machine → Machine) :
    Raises P (make point call keep) :=
  raises_invoke (Raises.bind (fun _ => nofun) fun _ => (Raises.modify _).bind fun _ => .pure _)

theorem raises_allocateCommandBuffers (pool : Handle) (level : Int) (n : Nat) :
    Raises P (allocateCommandBuffers pool level n) :=
  raises_invoke (Raises.bind (fun _ => nofun) fun _ => .pure _)

theorem raises_destroyCommandPool (pool : Handle) (buffers : List Handle) :
    Raises P (destroyCommandPool pool buffers) :=
  (raises_count _).bind fun _ => raises_record _ _

theorem raises_copyBuffer (b source destination : Handle) (region : Region) :
    Raises P (copyBuffer b source destination region) :=
  Raises.bind (.modify _) fun _ => raises_record _ _

theorem raises_destroyFence (fence : Handle) : Raises P (destroyFence fence) :=
  Raises.bind (.modify _) fun _ => raises_record _ _

theorem raises_destroyBuffer (b : Handle) : Raises P (destroyBuffer b) :=
  Raises.bind (.modify _) fun _ => raises_record _ _

theorem raises_freeMemory (memory : Handle) : Raises P (freeMemory memory) :=
  Raises.bind (.modify _) fun _ => raises_record _ _

theorem raises_mapMemory (memory : Handle) (offset size : UInt64) : Raises P (mapMemory memory offset size) :=
  raises_invoke (Raises.bind (raises_count _) fun _ => Raises.bind (fun _ => nofun) fun _ => .pure _)

theorem raises_unmapMemory (memory : Handle) : Raises P (unmapMemory memory) :=
  Raises.bind (raises_count _) fun _ => raises_record _ _

section Breakdowns

variable (panics : ∀ p, P (.panic p))
include panics

theorem raises_execute (copy : RecordedCopy) : Raises P (execute copy) := fun m => by
  unfold Ends execute
  cases m.copied copy with
  | ok m => exact nofun
  | error cause =>
    rintro _ ⟨⟩
    exact panics cause

theorem raises_executeAll (copies : List RecordedCopy) : Raises P (copies.forM execute) := by
  induction copies with
  | nil => exact .pure _
  | cons copy copies ih => exact (raises_execute panics copy).bind fun _ => ih

theorem raises_queueSubmit (queue b : Handle) (fence : Option Handle) : Raises P (queueSubmit queue b fence) := by
  have taken : Raises P (takeRecorded b) := fun m => by
    rw [ends_takeRecorded]
    exact nofun
  have rest : Raises P (do
      let copies ← takeRecorded b
      copies.forM execute
      pure (.ok ()) : Action Machine (Except ResultCode Unit)) :=
    taken.bind fun copies => (raises_executeAll panics copies).bind fun _ => .pure _
  refine raises_invoke (Raises.bind (fun _ => nofun) fun m => .ite ?_ ?_)
  · exact (raises_count _).bind fun _ => .pure _
  · refine (raises_count _).bind fun _ => ?_
    cases fence with
    | none => exact rest
    | some fence =>
      dsimp only
      split
      · exact (raises_count _).bind fun _ => rest
      · exact .throw (panics _)

theorem raises_waitForFence (fence : Handle) (timeout : UInt64) : Raises P (waitForFence fence timeout) := by
  refine raises_invoke (Raises.bind (fun _ => nofun) fun m => .ite ?_ ?_)
  · exact .pure _
  · exact .throw (panics _)

end Breakdowns

end Machine

namespace Device

theorem raises_createCommandPool (device : Device) (family : UInt32) :
    Raises P (device.createCommandPool family) := by
  unfold createCommandPool
  cases device.route with
  | direct => exact Machine.raises_make _ _ _
  | logical => exact (Machine.raises_record _ _).bind fun _ => Machine.raises_make _ _ _

theorem raises_destroyCommandPool (device : Device) (pool : Handle) (buffers : List Handle) :
    Raises P (device.destroyCommandPool pool buffers) := by
  unfold destroyCommandPool
  cases device.route with
  | direct => exact Machine.raises_destroyCommandPool _ _
  | logical => exact .optional (Machine.raises_record _ _) fun _ => Machine.raises_destroyCommandPool _ _

theorem raises_queueSubmit (panics : ∀ p, P (.panic p)) (device : Device) (queue b : Handle)
    (fence : Option Handle) : Raises P (device.queueSubmit queue b fence) := by
  unfold queueSubmit
  cases device.route with
  | direct => exact Machine.raises_queueSubmit panics _ _ _
  | logical =>
    refine Raises.bind (.attempt _) fun answer => ?_
    cases answer <;> exact .pure _

theorem raises_nameObject (device : Device) (objectType : UInt32) (handle : Handle) (name : String) :
    Raises P (device.nameObject objectType handle name) := by
  unfold nameObject
  rcases device.route with _ | _ | _
  · exact Machine.raises_affect _ _ _
  · exact .pure _
  · exact .ite (Raises.bind (.log _ _) fun _ => .pure _) (Machine.raises_affect _ _ _)

end Device

end CopyBench
