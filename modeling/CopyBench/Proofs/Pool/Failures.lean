import CopyBench.Proofs.Machine.Failures
import CopyBench.Proofs.Pool.Ring
/-!
# What the operations of a pool fail with

No error of a pool in use ends a run. Slots that do not exist, are open or are not open are the caller's
mistakes, and a slot of the pool can always be flushed; so an acquire only ever fails with the code of a
device call.
-/

namespace CopyBench

open CopyBench.Action

theorem CommandPool.raises_create (device : Device) (queue : Handle) (depth : Nat) (family : UInt32)
    (level : Int) : Raises Failure.Misconfigured (create device queue depth family level) := by
  refine .ite (.fail trivial) (.ite (.fail trivial) ?_)
  refine ((Device.raises_createCommandPool device family).orFatal fun _ => trivial).bind fun handle => ?_
  refine Raises.bind (.onFailure ((Machine.raises_allocateCommandBuffers _ _ _).orFatal fun _ => trivial)
    (Device.raises_destroyCommandPool device handle [])) fun buffers => ?_
  exact Raises.bind (.log _ _) fun _ => .pure _

namespace Session

variable {α β : Type} {P : Failure → Prop} {s : Session} {index : Nat} {slot : Slot}

theorem raises_lift {act : Action Machine α} (h : Raises P act) : Raises P (liftM act : Action Session α) :=
  fun s => by
    rw [ends_lift]
    exact h s.machine

theorem raises_getPool : Raises P getPool := fun _ => nofun

theorem raises_setState (index : Nat) (state : SlotState) : Raises P (setState index state) := .modify _

/-! ## Device calls -/

theorem raises_drain : Raises Failure.Operational drain :=
  raises_getPool.bind fun _ => (raises_lift (Machine.raises_affect _ _ _)).orOperational fun _ => trivial

theorem raises_submit (index : Nat) (b : Handle) : Raises Failure.Operational (submit index b) := by
  refine raises_getPool.bind fun pool => Raises.bind ?_ fun _ => raises_setState _ _
  exact (raises_lift (Device.raises_queueSubmit (fun _ => trivial) _ _ _ _)).orOperational fun _ => trivial

theorem raises_submitAndWait (index : Nat) (b : Handle) : Raises Failure.Operational (submitAndWait index b) := by
  have submission (device : Device) (queue fence : Handle) : Raises Failure.Operational
      ((device.queueSubmit queue b (some fence)).orOperational Entrypoint.queueSubmit.symbol) :=
    (Device.raises_queueSubmit (fun _ => trivial) _ _ _ _).orOperational fun _ => trivial
  refine raises_getPool.bind fun pool => Raises.bind ?_ fun fence => ?_
  · exact (raises_lift (Machine.raises_make _ _ _)).orOperational fun _ => trivial
  refine (raises_lift (submission _ _ _)).recover_bind (fun _ => ?_) fun e he => ?_
  · refine (raises_setState _ _).bind fun _ => ?_
    refine (raises_lift (Machine.raises_waitForFence (fun _ => trivial) _ _)).bind fun waited => ?_
    refine (raises_lift (Machine.raises_destroyFence fence)).bind fun _ => ?_
    exact ((Raises.pure waited).orOperational fun _ => trivial).bind fun _ => raises_setState _ _
  · exact (raises_lift (Machine.raises_destroyFence fence)).bind fun _ => .fail he

theorem raises_submission (index : Nat) (b : Handle) (wait : Bool) :
    Raises Failure.Operational (if wait then submitAndWait index b else submit index b) :=
  .ite (raises_submitAndWait index b) (raises_submit index b)

/-! ## Slots -/

theorem raises_slot (index : Nat) : Raises Failure.Mild (Session.slot index) := fun s => by
  rw [ends_slot]
  cases s.pool.slots[index]? with
  | some slot => exact nofun
  | none =>
    rintro _ ⟨⟩
    rfl

/-- What is left to do when a slot may be begun. -/
theorem raises_opening (index : Nat) (b : Handle) (flags : UInt32) : Raises Failure.Operational (do
    orOperational Entrypoint.beginCommandBuffer.symbol (liftM (Machine.beginCommandBuffer b flags))
    setState index .recording
    pure b : Action Session Handle) := by
  refine Raises.bind ?_ fun _ => (raises_setState _ _).bind fun _ => .pure _
  exact (raises_lift (Machine.raises_affect _ _ _)).orOperational fun _ => trivial

theorem raises_begin (index : Nat) (flags : UInt32) : Raises Failure.Mild (begin index flags) := by
  refine (raises_slot index).bind fun slot => ?_
  have opening := (raises_opening index slot.commandBuffer flags).mono fun _ => Failure.Operational.mild
  rcases slot with ⟨b, _ | _ | _ | _⟩ <;> dsimp only
  case recording => exact .bind (.fail rfl) fun _ => opening
  case pending =>
    exact Raises.bind (.log _ _) fun _ => (raises_drain.mono fun _ => Failure.Operational.mild).bind fun _ => opening
  case idle | executable => exact opening

theorem raises_ending (index : Nat) (b : Handle) : Raises Failure.Operational (do
    orOperational Entrypoint.endCommandBuffer.symbol (liftM (Machine.endCommandBuffer b))
    setState index .executable : Action Session Unit) :=
  Raises.bind ((raises_lift (Machine.raises_affect _ _ _)).orOperational fun _ => trivial) fun _ =>
    raises_setState _ _

theorem raises_finishRecording (index : Nat) : Raises Failure.Mild (finishRecording index) :=
  (raises_slot index).bind fun slot =>
    .ite ((raises_ending index slot.commandBuffer).mono fun _ => Failure.Operational.mild) (.fail rfl)

theorem raises_flush (index : Nat) (wait : Bool) : Raises Failure.Mild (flush index wait) := by
  refine (raises_slot index).bind fun slot => ?_
  have submission (b : Handle) := (raises_submission index b wait).mono fun _ => Failure.Operational.mild
  rcases slot with ⟨b, _ | _ | _ | _⟩ <;> dsimp only
  case idle => exact .log _ _
  case recording => exact (raises_finishRecording index).bind fun _ => submission b
  case executable => exact submission b
  case pending =>
    exact .ite ((raises_drain.mono fun _ => Failure.Operational.mild).bind fun _ => raises_setState _ _) (.pure _)

/-- The error of a flush that fails is as grave as the error of the slot it failed at. -/
theorem raises_flushFrom (wait : Bool) (n : Nat) : ∀ index, Raises Failure.Mild (flushFrom wait index n) := by
  induction n with
  | zero => exact fun _ => .pure _
  | succ n ih =>
    exact fun index => (raises_flush index wait).recover_bind (fun _ => ih (index + 1)) fun _ he => .fail he

theorem raises_flushAll (wait : Bool) : Raises Failure.Mild (flushAll wait) :=
  raises_getPool.bind fun pool => raises_flushFrom wait pool.slots.length 0

theorem raises_acquire : Raises Failure.Mild acquire := by
  refine raises_getPool.bind fun pool => Raises.bind (.modify _) fun _ => ?_
  refine (raises_begin _ _).recover_bind (fun _ => .pure _) fun e he => ?_
  cases e with
  | slotAlreadyOpen i =>
    refine Raises.bind (.log _ _) fun _ => (raises_flush _ _).bind fun _ => Raises.bind (.modify _) fun _ => ?_
    exact (raises_begin _ _).bind fun _ => .pure _
  | configuration | slotNotOpen | slotOutOfRange | flushFailed | mapRange | vulkan => exact .fail he

theorem raises_close (index : Nat) (ending : Ending) : Raises Failure.Mild (close index ending) := by
  cases ending with
  | keep => exact raises_finishRecording index
  | submit | finish => exact raises_flush index _

/-- No operation of a pool fails with an error that ends the run. -/
theorem raises_perform (operation : PoolOperation) : Raises Failure.Mild (perform operation) := by
  cases operation with
  | begin index flags => exact (raises_begin index flags).bind fun _ => .pure _
  | finishRecording index => exact (raises_finishRecording index).bind fun _ => .pure _
  | flush index wait => exact (raises_flush index wait).bind fun _ => .pure _
  | flushAll wait => exact (raises_flushAll wait).bind fun _ => .pure _
  | acquire => exact raises_acquire.bind fun _ => .pure _
  | close index ending => exact (raises_close index ending).bind fun _ => .pure _
  | commandBuffer index => exact (raises_slot index).bind fun _ => .pure _
  | state index => exact (raises_slot index).bind fun _ => .pure _

/-! ## Slots that are there -/

/-- A slot that is there and not open can be begun, unless a device call fails. -/
theorem ends_begin_operational (hslot : s.pool.slots[index]? = some slot) (closed : slot.state ≠ .recording)
    (flags : UInt32) : (begin index flags).Ends s fun r _ => ∀ f, r = .error f → f.Operational := by
  have opening := raises_opening index slot.commandBuffer flags
  rw [begin, ends_bind, ends_slot, hslot]
  rcases slot with ⟨b, _ | _ | _ | _⟩ <;> dsimp only
  case recording => exact absurd rfl closed
  case pending => exact Raises.bind (.log _ _) (fun _ => raises_drain.bind fun _ => opening) s
  case idle | executable => exact opening s

/-- A slot that is open cannot be begun. -/
theorem ends_begin_open (hslot : s.pool.slots[index]? = some slot) (opened : slot.state = .recording)
    (flags : UInt32) (Q : Except Failure Handle → Session → Prop) :
    (begin index flags).Ends s Q ↔ Q (.error (.error (.slotAlreadyOpen index))) s := by
  rw [ends_begin, hslot]
  dsimp only
  rw [opened]

/-- A slot that is there can be flushed, unless a device call fails. -/
theorem ends_flush_operational (hslot : s.pool.slots[index]? = some slot) (wait : Bool) :
    (flush index wait).Ends s fun r _ => ∀ f, r = .error f → f.Operational := by
  have submission := raises_submission index slot.commandBuffer wait
  rw [flush, ends_bind, ends_slot, hslot]
  rcases slot with ⟨b, _ | _ | _ | _⟩ <;> dsimp only
  case idle => rintro _ ⟨⟩
  case pending => exact Raises.ite (raises_drain.bind fun _ => raises_setState _ _) (.pure _) s
  case executable => exact submission s
  case recording =>
    rw [ends_bind, finishRecording, ends_bind, ends_slot, hslot]
    dsimp only
    rw [if_pos rfl]
    refine (raises_ending index b s).mono fun r s' h => ?_
    cases r with
    | error f =>
      rintro _ ⟨⟩
      exact h f rfl
    | ok _ => exact submission s'

/-- When the action succeeds, slot `index` is idle, if it is there at all. -/
def Settles (index : Nat) (act : Action Session α) : Prop :=
  ∀ s, act.Ends s fun r s' => ∀ a, r = .ok a → ∀ slot, s'.pool.slots[index]? = some slot → slot.state = .idle

theorem Settles.after {act : Action Session α} {f : α → Action Session β} (h : ∀ a, Settles index (f a)) :
    Settles index (act >>= f) := fun s => by
  rw [ends_bind]
  refine .of_forall fun r s' => ?_
  cases r with
  | error f => exact nofun
  | ok a => exact h a s'

theorem settles_setState (index : Nat) : Settles index (setState index .idle) := fun s _ _ slot hslot => by
  rw [slots_setState, List.getElem?_modify_eq] at hslot
  obtain ⟨_, -, rfl⟩ := Option.map_eq_some_iff.1 hslot
  rfl

theorem settles_submitAndWait (index : Nat) (b : Handle) : Settles index (submitAndWait index b) := by
  refine .after fun pool => .after fun fence => .after fun submitted => ?_
  cases submitted with
  | error e => exact .after fun _ => fun _ => nofun
  | ok _ => exact .after fun _ => .after fun _ => .after fun _ => .after fun _ => settles_setState index

/-- A waiting flush that succeeds leaves its slot idle. -/
theorem settles_flush (index : Nat) : Settles index (flush index true) := by
  intro s
  rw [flush, ends_bind, ends_slot]
  cases hslot : s.pool.slots[index]? with
  | none => rintro _ ⟨⟩
  | some slot =>
    rcases slot with ⟨b, _ | _ | _ | _⟩ <;> dsimp only
    case idle =>
      intro _ _ slot hslot'
      cases hslot.symm.trans hslot'
      rfl
    case pending => exact Settles.after (fun _ => settles_setState index) s
    case recording => exact Settles.after (fun _ => settles_submitAndWait index b) s
    case executable => exact settles_submitAndWait index b s

/-- A slot that is flushed before it is acquired again is begun, unless a device call fails. -/
theorem ends_reopen_operational (hslot : s.pool.slots[index]? = some slot) :
    (reopen index).Ends s fun r _ => ∀ f, r = .error f → f.Operational := by
  rw [ends_reopen]
  refine (((ends_flush_operational (s := Console.tell _ s) hslot true).and (settles_flush index _)).and
    (rings_flush index true _ (CommandPool.Keeps.refl _))).mono fun r s₁ h => ?_
  obtain ⟨⟨operational, settles⟩, keeps⟩ := h
  cases r with
  | error f =>
    rintro _ ⟨⟩
    exact operational f rfl
  | ok _ =>
    have hindex : index < s₁.pool.slots.length := by
      rw [keeps.length]
      exact (List.getElem?_eq_some_iff.1 hslot).1
    have hslot₁ := List.getElem?_eq_getElem hindex
    refine (ends_begin_operational
      (s := { s₁ with pool := { s₁.pool with autoFlushes := s₁.pool.autoFlushes + 1 } }) hslot₁ ?_
      simultaneousUse).mono fun r s₂ h => ?_
    · rw [settles () rfl _ hslot₁]
      decide
    · cases r with
      | error f =>
        rintro _ ⟨⟩
        exact h f rfl
      | ok b => exact nofun

/-- The slot at the cursor is there, so an acquire fails only when a device call does. -/
theorem ends_acquire_operational (ring : s.pool.cursor < s.pool.slots.length) :
    acquire.Ends s fun r _ => ∀ f, r = .error f → f.Operational := by
  have hslot := List.getElem?_eq_getElem ring
  rw [ends_acquire]
  by_cases opened : (s.pool.slots[s.pool.cursor]).state = .recording
  · refine (ends_begin_open (s := { s with pool := turned s.pool }) hslot opened simultaneousUse _).2 ?_
    exact ends_reopen_operational (s := { s with pool := turned s.pool }) hslot
  · refine (ends_begin_operational (s := { s with pool := turned s.pool }) hslot opened
      simultaneousUse).mono fun r s₁ h => ?_
    split
    · rintro _ ⟨⟩
    · cases h _ rfl
    · rintro _ ⟨⟩
      exact h _ rfl

end Session

end CopyBench
