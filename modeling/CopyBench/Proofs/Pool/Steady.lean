import CopyBench.Proofs.Machine.Steps
import CopyBench.Proofs.Pool.Calls
/-!
# Flushing on a logical device

A submission that breaks down on a logical device is answered as a lost device, and a fence is waited for
while it is live. So a pool on a logical device can be flushed in any state of its slots without a panic.
-/

namespace CopyBench

open CopyBench.Action

/-- The pool is on a logical device. -/
def CommandPool.OnLogical (pool : CommandPool) : Prop := ∃ debugNames, pool.device.route = .logical debugNames

/-- A logical device always answers a submission. -/
theorem Device.ends_queueSubmit_answered {device : Device} {debugNames : Bool}
    (route : device.route = .logical debugNames) (queue b : Handle) (fence : Option Handle) (m : Machine) :
    (device.queueSubmit queue b fence).Ends m fun r _ => ∃ answer, r = .ok answer := by
  rw [Machine.ends_device_queueSubmit, route]
  exact .of_forall fun r _ => by cases r <;> exact ⟨_, rfl⟩

namespace Session

variable {α β : Type} {s : Session}

/-- On a logical device the action does not panic, and the pool stays there. -/
def Steady (act : Action Session α) : Prop :=
  ∀ s, s.pool.OnLogical → act.Ends s fun r s' => s'.pool.OnLogical ∧ ∀ p, r ≠ .error (.panic p)

namespace Steady

theorem pure (a : α) : Steady (pure a) := fun _ logical => ⟨logical, nofun⟩

theorem fail (e : Error) : @Steady α (Action.fail e) := fun _ logical => ⟨logical, nofun⟩

theorem bind {act : Action Session α} {f : α → Action Session β} (h : Steady act) (h' : ∀ a, Steady (f a)) :
    Steady (act >>= f) := fun s logical => by
  rw [ends_bind]
  refine (h s logical).mono fun r s₁ h => ?_
  obtain ⟨logical₁, calm⟩ := h
  cases r with
  | error f => exact ⟨logical₁, fun p hp => by cases hp; exact calm p rfl⟩
  | ok a => exact h' a s₁ logical₁

theorem ite {p : Prop} [Decidable p] {x y : Action Session α} (hx : Steady x) (hy : Steady y) :
    Steady (if p then x else y) := by
  split
  · exact hx
  · exact hy

theorem recover {act : Action Session α} (h : Steady act) : Steady (recover act) := fun s logical => by
  rw [ends_recover]
  refine (h s logical).mono fun r s₁ h => ?_
  rcases r with (e | p) | a
  · exact ⟨h.1, nofun⟩
  · exact absurd rfl (h.2 p)
  · exact ⟨h.1, nofun⟩

theorem orOperational {act : Action Session (Except ResultCode α)} (call : String) (h : Steady act) :
    Steady (orOperational call act) :=
  h.bind fun answer => by
    cases answer with
    | ok a => exact pure a
    | error code => exact fail _

end Steady

theorem steady_slot (index : Nat) : Steady (slot index) := fun s logical => by
  rw [ends_slot]
  cases s.pool.slots[index]? <;> exact ⟨logical, nofun⟩

theorem steady_setState (index : Nat) (state : SlotState) : Steady (setState index state) :=
  fun _ logical => ⟨logical, nofun⟩

theorem steady_affect (point : Entrypoint) (call : Call) (change : Machine → Machine) :
    Steady (liftM (Machine.affect point call change)) := fun s logical => by
  rw [ends_lift, Machine.ends_affect]
  cases s.machine.fault point <;> exact ⟨logical, nofun⟩

theorem steady_drain : Steady drain := fun s logical => by
  rw [ends_drain]
  cases s.machine.fault .queueWaitIdle <;> exact ⟨logical, nofun⟩

theorem steady_finishRecording (index : Nat) : Steady (finishRecording index) :=
  (steady_slot index).bind fun _ =>
    .ite (((steady_affect _ _ _).orOperational _).bind fun _ => steady_setState _ _) (.fail _)

theorem steady_submit (index : Nat) (b : Handle) : Steady (submit index b) := fun s logical => by
  obtain ⟨debugNames, route⟩ := logical
  rw [submit, ends_bind, ends_getPool]
  dsimp only
  rw [ends_bind, ends_orOperational, ends_lift]
  refine (Device.ends_queueSubmit_answered route _ _ _ _).mono fun r m h => ?_
  obtain ⟨code | _, rfl⟩ := h
  · exact ⟨⟨debugNames, route⟩, nofun⟩
  · exact steady_setState index _ _ ⟨debugNames, route⟩

/-- A fence that is live can be waited for. -/
theorem ends_awaitFence_steady (index : Nat) {fence : Handle} (live : fence ∈ s.machine.liveFences)
    (logical : s.pool.OnLogical) :
    (awaitFence index fence).Ends s fun r s' => s'.pool.OnLogical ∧ ∀ p, r ≠ .error (.panic p) := by
  rw [awaitFence, ends_bind, ends_lift, Machine.ends_waitForFence _ _ _ live]
  split
  · exact ⟨logical, nofun⟩
  split
  · exact ⟨logical, nofun⟩
  · exact ⟨logical, nofun⟩

theorem steady_submitAndWait (index : Nat) (b : Handle) : Steady (submitAndWait index b) := fun s logical => by
  rw [ends_submitAndWait]
  cases s.machine.fault .createFence with
  | some code => exact ⟨logical, nofun⟩
  | none =>
    obtain ⟨debugNames, route⟩ := logical
    -- The fence that was made is live, and a submission leaves the fences as they are.
    have live : s.machine.lastHandle + 1 ∈ s.machine.fenced.liveFences := List.mem_cons_self
    dsimp only
    rw [submitFenced, ends_bind, ends_getPool]
    dsimp only
    rw [ends_bind, ends_recover, ends_lift, ends_orOperational]
    refine ((Device.ends_queueSubmit_answered route _ _ _ _).and (Machine.ends_queueSubmit_step s.pool.device
      s.pool.queue b (some _) fun _ h => Option.some.inj h ▸ live)).mono fun r m h => ?_
    obtain ⟨⟨code | _, rfl⟩, -, fences, -⟩ := h
    · exact ⟨⟨debugNames, route⟩, nofun⟩
    · exact ends_awaitFence_steady index (fences ▸ live) ⟨debugNames, route⟩

theorem steady_flush (index : Nat) (wait : Bool) : Steady (flush index wait) := by
  have submission (b : Handle) : Steady (if wait then submitAndWait index b else submit index b) :=
    .ite (steady_submitAndWait index b) (steady_submit index b)
  refine (steady_slot index).bind fun slot => ?_
  rcases slot with ⟨b, _ | _ | _ | _⟩ <;> dsimp only
  case idle => exact fun _ logical => ⟨logical, nofun⟩
  case recording => exact (steady_finishRecording index).bind fun _ => submission b
  case executable => exact submission b
  case pending => exact .ite (steady_drain.bind fun _ => steady_setState _ _) (.pure _)

theorem steady_flushFrom (wait : Bool) (n : Nat) : ∀ index, Steady (flushFrom wait index n) := by
  induction n with
  | zero => exact fun _ => .pure _
  | succ n ih =>
    refine fun index => (steady_flush index wait).recover.bind fun r => ?_
    cases r with
    | ok _ => exact ih (index + 1)
    | error e => exact .fail _

/-- Whatever its slots hold, a pool on a logical device can be flushed without a panic. -/
theorem steady_flushAll (wait : Bool) : Steady (flushAll wait) := fun s logical => by
  rw [flushAll, ends_bind, ends_getPool]
  exact steady_flushFrom wait _ 0 s logical

end Session

end CopyBench
