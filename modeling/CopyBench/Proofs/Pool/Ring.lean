import CopyBench.Proofs.Buffer.Steps
/-!
# What stays of a pool

Whatever is asked of a session, its pool stays on its device and queue with the command buffers it was made
with; only the states of the slots change, and the cursor moves round the ring.
-/

namespace CopyBench

open CopyBench.Action

namespace CommandPool

/-- The later pool is the earlier one, but for the states of its slots and where its ring stands. -/
structure Keeps (p p' : CommandPool) : Prop where
  device : p'.device = p.device
  handle : p'.handle = p.handle
  commandBuffers : p'.slots.map (·.commandBuffer) = p.slots.map (·.commandBuffer)
  cursor : p.cursor < p.slots.length → p'.cursor < p'.slots.length

variable {p p' p'' : CommandPool}

theorem Keeps.refl (p : CommandPool) : p.Keeps p := ⟨rfl, rfl, rfl, id⟩

theorem Keeps.trans (h : p.Keeps p') (h' : p'.Keeps p'') : p.Keeps p'' :=
  ⟨h'.device.trans h.device, h'.handle.trans h.handle, h'.commandBuffers.trans h.commandBuffers,
    h'.cursor ∘ h.cursor⟩

theorem Keeps.length (h : p.Keeps p') : p'.slots.length = p.slots.length := by
  simpa using congrArg List.length h.commandBuffers

/-- A property of pools that does not depend on the states of their slots. -/
def Stable (J : CommandPool → Prop) : Prop := ∀ p index state, J p → J (p.setState index state)

/-- A property of pools that holds as long as no slot is opened. -/
def StableShut (J : CommandPool → Prop) : Prop :=
  ∀ p index state, state ≠ .recording → J p → J (p.setState index state)

theorem Stable.shut {J : CommandPool → Prop} (stable : Stable J) : StableShut J :=
  fun p index state _ => stable p index state

theorem keeps_setState (p : CommandPool) (index : Nat) (state : SlotState) : p.Keeps (p.setState index state) :=
  ⟨rfl, rfl, Session.commandBuffers_setState p index state, fun h => by
    rwa [Session.slots_setState, List.length_modify]⟩

theorem stable_keeps (p : CommandPool) : Stable p.Keeps := fun q index state h =>
  h.trans (q.keeps_setState index state)

theorem keeps_turned (p : CommandPool) (k : Nat) : p.Keeps { p with cursor := k % p.slots.length } :=
  ⟨rfl, rfl, rfl, fun h => Nat.mod_lt _ (Nat.zero_lt_of_lt h)⟩

end CommandPool

open CommandPool (Keeps)

namespace Session

variable {α : Type} {p : CommandPool} {J : CommandPool → Prop}

/-- The action keeps a property of the pool, whatever the session, and however it ends. -/
abbrev Stays (J : CommandPool → Prop) (act : Action Session α) : Prop := Maintains (fun s => J s.pool) act

theorem stays_lift (act : Action Machine α) : Stays J (liftM act) := fun s h => by
  rw [ends_lift]
  exact .of_forall fun _ _ => h

theorem stays_getPool : Stays J getPool := fun _ h => h

theorem stays_log (level : Level) (message : String) : Stays J (log level message) := fun _ h => h

theorem stays_slot (index : Nat) : Stays J (slot index) := fun s h => by
  rw [ends_slot]
  cases s.pool.slots[index]? <;> exact h

theorem stays_drain : Stays J drain := stays_getPool.bind fun _ => (stays_lift _).orOperational _

/-! ## What does not depend on the states of the slots

Every operation but an acquire changes nothing of the pool besides, and only a begin opens a slot. -/

section Shut

variable (stable : CommandPool.StableShut J)
include stable

theorem stays_setState (index : Nat) (state : SlotState) (shut : state ≠ .recording) :
    Stays J (setState index state) := fun s h => stable s.pool index state shut h

theorem stays_finishRecording (index : Nat) : Stays J (finishRecording index) :=
  (stays_slot index).bind fun _ =>
    .ite (((stays_lift _).orOperational _).bind fun _ => stays_setState stable _ .executable nofun) (.fail _)

theorem stays_submit (index : Nat) (b : Handle) : Stays J (submit index b) :=
  stays_getPool.bind fun _ => ((stays_lift _).orOperational _).bind fun _ =>
    stays_setState stable _ .pending nofun

theorem stays_submitAndWait (index : Nat) (b : Handle) : Stays J (submitAndWait index b) := by
  refine stays_getPool.bind fun pool => ((stays_lift _).orOperational _).bind fun fence => ?_
  refine (stays_lift _).recover.bind fun r => ?_
  cases r with
  | error e => exact (stays_lift _).bind fun _ => .fail e
  | ok _ =>
    refine (stays_setState stable _ .pending nofun).bind fun _ => (stays_lift _).bind fun waited =>
      (stays_lift _).bind fun _ => ?_
    exact (Maintains.orOperational _ (.pure waited)).bind fun _ => stays_setState stable _ .idle nofun

theorem stays_submission (index : Nat) (b : Handle) (wait : Bool) :
    Stays J (if wait then submitAndWait index b else submit index b) :=
  .ite (stays_submitAndWait stable index b) (stays_submit stable index b)

theorem stays_flush (index : Nat) (wait : Bool) : Stays J (flush index wait) := by
  refine (stays_slot index).bind fun slot => ?_
  rcases slot with ⟨b, _ | _ | _ | _⟩ <;> dsimp only
  case idle => exact stays_log _ _
  case recording =>
    exact (stays_finishRecording stable index).bind fun _ => stays_submission stable index b wait
  case executable => exact stays_submission stable index b wait
  case pending => exact .ite (stays_drain.bind fun _ => stays_setState stable _ .idle nofun) (.pure _)

theorem stays_flushFrom (wait : Bool) (n : Nat) : ∀ index, Stays J (flushFrom wait index n) := by
  induction n with
  | zero => exact fun _ => .pure _
  | succ n ih =>
    refine fun index => (stays_flush stable index wait).recover.bind fun r => ?_
    cases r with
    | ok _ => exact ih (index + 1)
    | error e => exact .fail _

theorem stays_flushAll (wait : Bool) : Stays J (flushAll wait) :=
  stays_getPool.bind fun pool => stays_flushFrom stable wait pool.slots.length 0

theorem stays_close (index : Nat) (ending : Ending) : Stays J (close index ending) := by
  cases ending with
  | keep => exact stays_finishRecording stable index
  | submit | finish => exact stays_flush stable index _

end Shut

section Stable

variable (stable : CommandPool.Stable J)
include stable

theorem stays_begin (index : Nat) (flags : UInt32) : Stays J (begin index flags) := by
  refine (stays_slot index).bind fun slot => ?_
  have rest : Stays J (do
      orOperational Entrypoint.beginCommandBuffer.symbol
        (liftM (Machine.beginCommandBuffer slot.commandBuffer flags))
      setState index .recording
      pure slot.commandBuffer) :=
    ((stays_lift _).orOperational _).bind fun _ =>
      Maintains.bind (fun s h => stable s.pool index .recording h) fun _ => .pure _
  rcases slot with ⟨b, _ | _ | _ | _⟩ <;> dsimp only
  case recording => exact .bind (.fail _) fun _ => rest
  case pending => exact (stays_log _ _).bind fun _ => stays_drain.bind fun _ => rest
  case idle | executable => exact rest

/-- A request other than for an acquire changes only the states of slots. -/
theorem stays_perform {operation : PoolOperation} (other : operation ≠ .acquire) :
    Stays J (perform operation) := by
  have shut := stable.shut
  cases operation with
  | begin index flags => exact (stays_begin stable index flags).bind fun _ => .pure _
  | finishRecording index => exact (stays_finishRecording shut index).bind fun _ => .pure _
  | flush index wait => exact (stays_flush shut index wait).bind fun _ => .pure _
  | flushAll wait => exact (stays_flushAll shut wait).bind fun _ => .pure _
  | acquire => exact absurd rfl other
  | close index ending => exact (stays_close shut index ending).bind fun _ => .pure _
  | commandBuffer index => exact (stays_slot index).bind fun _ => .pure _
  | state index => exact (stays_slot index).bind fun _ => .pure _

end Stable

/-! ## The pool through any request -/

/-- The action keeps the pool, whatever the session, and however it ends. -/
abbrev Rings (p : CommandPool) (act : Action Session α) : Prop := Stays p.Keeps act

theorem rings_flush (index : Nat) (wait : Bool) : Rings p (flush index wait) :=
  stays_flush p.stable_keeps.shut index wait

theorem rings_acquire : Rings p acquire := by
  have begins (index : Nat) (flags : UInt32) : Rings p (begin index flags) :=
    stays_begin p.stable_keeps index flags
  refine stays_getPool.bind fun pool => ?_
  refine Maintains.bind (.modify fun s h => h.trans (CommandPool.keeps_turned s.pool _)) fun _ => ?_
  refine (begins _ _).recover.bind fun r => ?_
  rcases r with e | b
  · dsimp only
    split
    case h_1 heq => cases heq
    case h_2 =>
      refine (stays_log _ _).bind fun _ => (rings_flush _ _).bind fun _ => ?_
      refine Maintains.bind (.modify fun s h => h.trans ⟨rfl, rfl, rfl, id⟩) fun _ => ?_
      exact (begins _ _).bind fun _ => .pure _
    case h_3 => exact .fail _
  · exact .pure _

theorem rings_perform (operation : PoolOperation) : Rings p (perform operation) := by
  by_cases other : operation = .acquire
  · subst other
    exact rings_acquire.bind fun _ => .pure _
  · exact stays_perform p.stable_keeps other

theorem rings_copyFrom (buffer source : BoundBuffer) (region : Region) (wait : Bool) :
    Rings p (StagedBuffer.copyFrom buffer source region wait) :=
  rings_acquire.bind fun _ => (stays_lift _).bind fun _ => stays_close p.stable_keeps.shut _ _

/-- Whatever is done with buffers, the pool is kept. -/
theorem upheld_keeps (p : CommandPool) : Upheld fun s => p.Keeps s.pool where
  stable _ _ _ keeps := keeps
  copies := rings_copyFrom

end Session

end CopyBench
