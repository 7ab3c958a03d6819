import CopyBench.Proofs.Buffer.Creation
import CopyBench.Proofs.Trace.Submitted
/-!
# Work that halts at the first obstacle

Work on buffers is a series of calls. It goes through when none of them is turned down. Else it halts at
the first that is, or at a search that finds no memory type: it fails with the error of that obstacle, and
makes no more calls but those that give something back. Names are an exception: whether they can be
attached does not matter.
-/

namespace CopyBench

/-- Whether a call gives something back. Such calls cannot fail. -/
def Call.isRelease : Call → Bool
  | .destroyFence _ | .unmapMemory _ | .destroyBuffer _ | .freeMemory _ => true
  | _ => false

/-- Whether a call is of a kind that is counted: ranges that are mapped, submissions and waits. -/
def Call.isCounted : Call → Bool
  | .mapMemory .. | .queueSubmit .. | .waitForFence .. => true
  | _ => false

theorem Call.not_isCounted_of_naming {call : Call} (h : call.isNaming = true) : call.isCounted = false := by
  cases call <;> first | rfl | cases h

namespace Event

/-- Whether an event is a call that failed, other than one that attaches a name. -/
def fails (event : Event) : Bool :=
  match event.reply with
  | .failed _ | .crashed => !event.call.isNaming
  | _ => false

/-- Whether an event is a wait for a fence that was answered: a copy is complete. -/
def completes (event : Event) : Bool :=
  match event.call, event.reply with
  | .waitForFence .., .done => true
  | _, _ => false

/-- Whether an event maps a range. -/
def maps (event : Event) : Bool :=
  match event.call, event.reply with
  | .mapMemory .., .done => true
  | _, _ => false

/-- Whether an event gives something back. -/
def releases (event : Event) : Bool := event.call.isRelease && event.reply = .done

theorem not_fails_of_releases {event : Event} (h : event.releases = true) : event.fails = false := by
  rw [releases, Bool.and_eq_true, decide_eq_true_eq] at h
  rw [fails, h.2]

/-- An event of another kind than those that are counted. -/
structure Minor (event : Event) : Prop where
  completes : event.completes = false
  fenced : event.fenced = false
  maps : event.maps = false

theorem minor_of_call {event : Event} (h : event.call.isCounted = false) : event.Minor := by
  rcases event with ⟨call, reply⟩
  cases call <;> first | exact ⟨rfl, rfl, rfl⟩ | cases h

theorem minor_of_releases {event : Event} (h : event.releases = true) : event.Minor := by
  rcases event with ⟨call, reply⟩
  rw [releases, Bool.and_eq_true] at h
  apply minor_of_call
  cases call <;> first | rfl | cases h.1

theorem not_fails_of_naming {event : Event} (h : event.call.isNaming = true) : event.fails = false := by
  rw [fails, h]
  cases event.reply <;> rfl

end Event

/-- What work on buffers can halt at. -/
inductive Obstacle where
  /-- A call was turned down. -/
  | call (call : Call) (code : ResultCode)
  /-- No memory type in `typeBits` has all of `required`. -/
  | memoryType (typeBits required : UInt32)
deriving DecidableEq

namespace Obstacle

/-- The error that work fails with at an obstacle, unless it is a call that such work does not make. -/
def error? : Obstacle → Option Error
  | memoryType typeBits required => some (.configuration (.noMemoryType typeBits required))
  | call (.createBuffer ..) code => some (.configuration (.callFailed Entrypoint.createBuffer.symbol code))
  | call (.allocateMemory ..) code => some (.configuration (.callFailed Entrypoint.allocateMemory.symbol code))
  | call (.bindBufferMemory ..) code => some (.configuration (.callFailed Entrypoint.bindBufferMemory.symbol code))
  | call (.mapMemory ..) code => some (.vulkan Entrypoint.mapMemory.symbol code)
  | call (.beginCommandBuffer ..) code => some (.vulkan Entrypoint.beginCommandBuffer.symbol code)
  | call (.endCommandBuffer ..) code => some (.vulkan Entrypoint.endCommandBuffer.symbol code)
  | call .createFence code => some (.vulkan Entrypoint.createFence.symbol code)
  | call (.queueSubmit ..) code => some (.vulkan Entrypoint.queueSubmit.symbol code)
  | call (.waitForFence ..) code => some (.vulkan Entrypoint.waitForFence.symbol code)
  | call _ _ => none

/-- Whether an obstacle is met while a buffer is made. -/
def ofCreation : Obstacle → Bool
  | memoryType .. | call (.createBuffer ..) _ | call (.allocateMemory ..) _ | call (.bindBufferMemory ..) _ => true
  | call _ _ => false

/-- What of an obstacle shows in the trace. -/
def events : Obstacle → List Event
  | call c code => [⟨c, .failed code⟩]
  | memoryType .. => []

/-- The error is fatal when a buffer could not be made, and only then. -/
theorem isFatal_iff {obstacle : Obstacle} {e : Error} (h : obstacle.error? = some e) :
    e.isFatal = true ↔ obstacle.ofCreation = true := by
  rcases obstacle with ⟨c, code⟩ | _
  · cases c <;> cases h <;> simp [Error.isFatal, ofCreation]
  · cases h
    exact iff_of_true rfl rfl

end Obstacle

/-- The calls of work that goes through, or that halts at an obstacle. -/
inductive Halted {α : Type} : List Event → Except Failure α → Prop where
  | through {events : List Event} (smooth : ∀ event ∈ events, event.fails = false) (a : α) :
    Halted events (.ok a)
  | halted {before after : List Event} {obstacle : Obstacle} {e : Error}
      (smooth : ∀ event ∈ before, event.fails = false) (error : obstacle.error? = some e)
      (released : ∀ event ∈ after, event.releases = true) :
    Halted (before ++ obstacle.events ++ after) (.error (.error e))

namespace Halted

variable {α β : Type} {before more more' : List Event} {r : Except Failure α} {f : Failure}

theorem smooth {a : α} (h : Halted more (.ok a)) : ∀ event ∈ more, event.fails = false := by
  cases h with
  | through smooth => exact smooth

/-- Calls that all succeed come before. -/
theorem after (smooth : ∀ event ∈ before, event.fails = false) (h : Halted more r) : Halted (before ++ more) r := by
  cases h with
  | through smooth' a => exact .through (List.forall_mem_append.2 ⟨smooth, smooth'⟩) a
  | @halted before' after obstacle e smooth' error released =>
    rw [← List.append_assoc, ← List.append_assoc]
    exact .halted (List.forall_mem_append.2 ⟨smooth, smooth'⟩) error released

/-- Work that went through is followed by other work. -/
theorem trans {a : α} {r : Except Failure β} (h : Halted more (.ok a)) (h' : Halted more' r) :
    Halted (more ++ more') r :=
  h'.after h.smooth

/-- What was gathered is given back. -/
theorem release (h : Halted more r) (released : ∀ event ∈ more', event.releases = true) :
    Halted (more ++ more') r := by
  cases h with
  | through smooth a =>
    exact .through (List.forall_mem_append.2 ⟨smooth, fun event hmem =>
      Event.not_fails_of_releases (released event hmem)⟩) a
  | halted smooth error released' =>
    rw [List.append_assoc]
    exact .halted smooth error (List.forall_mem_append.2 ⟨released', released⟩)

/-- Which value there might have been does not matter when there is none. -/
theorem fail (h : Halted more (.error f : Except Failure α)) : Halted more (.error f : Except Failure β) := by
  cases h with
  | halted smooth error released => exact .halted smooth error released

theorem value {a : α} (h : Halted more (.ok a)) (b : β) : Halted more (.ok b) := .through h.smooth b

/-- Work fails at the first call that is turned down. -/
theorem turnedDown {call : Call} {code : ResultCode} {e : Error} (error : (Obstacle.call call code).error? = some e)
    (released : ∀ event ∈ more, event.releases = true) :
    @Halted α (⟨call, .failed code⟩ :: more) (.error (.error e)) :=
  .halted (List.forall_mem_nil _) error released

end Halted

end CopyBench
