import CopyBench.Proofs.Machine.Upkeep
import CopyBench.Proofs.Maintenance
import Mathlib.Logic.Relation
/-!
# Steps that leave the buffers alone

A pool begins, ends and submits command buffers, makes and destroys fences, and waits; besides, names
are attached and notes are taken. Each of these is one step of the machine, and what every step
preserves is preserved by several.
-/

namespace CopyBench

open CopyBench.Action

namespace Machine

/-- A call that has to do with no buffer, or a note. -/
inductive Step : Machine → Machine → Prop where
  | told (m : Machine) (note : Note) : Step m (Console.tell note m)
  | named (m : Machine) (objectType : UInt32) (handle : Handle) (name : String) :
    Step m (m.named objectType handle name)
  | refused (m : Machine) (point : Entrypoint) (call : Call) (code : ResultCode) :
    Step m (m.refuse point call code)
  | lost (m : Machine) (point : Entrypoint) (call : Call) (code : ResultCode) :
    Step m (m.lost.refuse point call code)
  | began (m : Machine) (b : Handle) (flags : UInt32) : Step m (m.began b flags)
  | ended (m : Machine) (b : Handle) : Step m (m.ended b)
  | drained (m : Machine) (queue : Handle) : Step m (m.drained queue)
  | fenced (m : Machine) : Step m m.fenced
  | waited (m : Machine) (fence : Handle) (timeout : UInt64) : Step m (m.waited fence timeout)
  | unfenced (m : Machine) (fence : Handle) : Step m (m.unfenced fence)
  /-- A submission that reaches the machine, and executes copies until it is done or breaks down. -/
  | handed {m m' : Machine} {b : Handle} {fence : Option Handle} {cause : Option Panic} (queue : Handle)
      (run : m.executed b fence = (m', cause)) :
    Step m (m'.traced (.queueSubmit queue b fence) (handedReply cause))

/-- Several steps. -/
abbrev Steps : Machine → Machine → Prop := Relation.ReflTransGen Step

variable {m₀ m : Machine}

/-- What every step preserves, several steps preserve. -/
theorem Steps.preserve {I : Machine → Prop} (step : ∀ m m', Step m m' → I m → I m')
    (steps : Steps m₀ m) (h : I m₀) : I m := by
  induction steps with
  | refl => exact h
  | tail _ last ih => exact step _ _ last ih

theorem maintains_endCommandBuffer (b : Handle) : Maintains (Steps m₀) (endCommandBuffer b) :=
    fun m steps => by
  rw [ends_endCommandBuffer]
  cases m.fault .endCommandBuffer with
  | some code => exact steps.tail (.refused ..)
  | none => exact steps.tail (.ended ..)

/-- A submission without a fence, or with one that is live, is answered in one step. It is accepted
only when it executed all the copies of its command buffer. -/
theorem ends_queueSubmit_step (device : Device) (queue b : Handle) (fence : Option Handle)
    (live : ∀ f, fence = some f → f ∈ m.liveFences) :
    (device.queueSubmit queue b fence).Ends m fun r m' => Step m m' ∧
      m'.liveFences = m.liveFences ∧
      (r = .ok (.ok ()) → ∃ m₁, m.executed b fence = (m₁, none) ∧
        m' = m₁.traced (.queueSubmit queue b fence) .done) := by
  rw [ends_device_queueSubmit, ends_queueSubmit _ _ _ _ live]
  cases m.fault .queueSubmit with
  | some code => cases device.route <;> exact ⟨.refused .., rfl, nofun⟩
  | none =>
    dsimp only
    split
    · cases device.route <;> exact ⟨.lost .., rfl, nofun⟩
    · rcases hrun : m.executed b fence with ⟨m₁, _ | cause⟩
      · have fences := liveFences_executed hrun
        cases device.route <;> exact ⟨.handed queue hrun, fences, fun _ => ⟨m₁, rfl, rfl⟩⟩
      · have fences := liveFences_executed hrun
        cases device.route <;> exact ⟨.handed queue hrun, fences, nofun⟩

/-- A submission is accepted when its event says so, and only then. -/
theorem ends_queueSubmit_reply (device : Device) (queue b : Handle) {fence : Option Handle}
    (live : ∀ f, fence = some f → f ∈ m.liveFences) :
    (device.queueSubmit queue b fence).Ends m fun r m' => m'.liveFences = m.liveFences ∧
      ∃ reply, m'.trace.toList = m.trace.toList ++ [⟨.queueSubmit queue b fence, reply⟩] ∧
        (r = .ok (.ok ()) ↔ reply = .done) ∧
        (reply = .done ∨ reply = .crashed ∨ ∃ code, reply = .failed code) := by
  rw [ends_device_queueSubmit, ends_queueSubmit _ _ _ _ live]
  have refused (m' : Machine) (code : ResultCode) (frame : m'.trace = m.trace) :
      (m'.refuse .queueSubmit (.queueSubmit queue b fence) code).trace.toList =
        m.trace.toList ++ [⟨.queueSubmit queue b fence, .failed code⟩] := by
    rw [trace_refuse, frame, Array.toList_push]
  have handed {m' : Machine} {cause : Option Panic} (run : m.executed b fence = (m', cause)) (reply : Reply) :
      (m'.traced (.queueSubmit queue b fence) reply).trace.toList =
        m.trace.toList ++ [⟨.queueSubmit queue b fence, reply⟩] := by
    rw [trace_traced, trace_executed run, Array.toList_push]
  cases m.fault .queueSubmit with
  | some code =>
    cases device.route <;> exact ⟨rfl, _, refused m code rfl, iff_of_false nofun nofun, .inr (.inr ⟨code, rfl⟩)⟩
  | none =>
    dsimp only
    split
    · cases device.route <;>
        exact ⟨rfl, _, refused m.lost _ rfl, iff_of_false nofun nofun, .inr (.inr ⟨_, rfl⟩)⟩
    · rcases hrun : m.executed b fence with ⟨m₁, _ | cause⟩
      · have fences := liveFences_executed hrun
        cases device.route <;> exact ⟨fences, _, handed hrun _, iff_of_true rfl rfl, .inl rfl⟩
      · have fences := liveFences_executed hrun
        cases device.route <;> exact ⟨fences, _, handed hrun _, iff_of_false nofun nofun, .inr (.inl rfl)⟩

/-- The copies of a command buffer were executed, and nothing has moved since. -/
def Replayed (m : Machine) (b : Handle) (m' : Machine) : Prop :=
  ∃ m₁, replay (m.work b) m = (m₁, none) ∧ SameMemory m₁ m'

theorem replayed_of_executed {m₁ m' : Machine} {b : Handle} {fence : Option Handle}
    (run : m.executed b fence = (m₁, none)) (same : SameMemory m₁ m') : Replayed m b m' := by
  obtain ⟨hsame, hcause⟩ := sameMemory_executed ⟨rfl, rfl⟩ run
  exact ⟨_, Prod.ext rfl hcause, hsame.trans same⟩

/-- What came before without moving a byte does not matter. -/
theorem Replayed.of_same {m m₁ m' : Machine} {b : Handle} (h : Replayed m₁ b m') (same : SameMemory m m₁)
    (hwork : m₁.work b = m.work b) : Replayed m b m' := by
  obtain ⟨m₂, hreplay, moved⟩ := h
  obtain ⟨hsame, hcause⟩ := same.replay (m.work b)
  rw [hwork] at hreplay
  rw [hreplay] at hsame hcause
  exact ⟨_, Prod.ext rfl hcause.symm, hsame.trans moved⟩

end Machine

end CopyBench
