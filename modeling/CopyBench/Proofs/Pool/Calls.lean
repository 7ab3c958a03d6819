import CopyBench.Pool.Operation
import CopyBench.Proofs.Machine.Answers
/-!
# Steps of a session

The operations of a session are made of calls on its machine and of changes to the states of its
slots. The rules below say what each of these steps comes to.
-/

namespace CopyBench.Session

open CopyBench.Action

variable {α : Type}

@[simp] theorem ends_onMachine (act : Action Machine α) (s : Session)
    (Q : Except Failure α → Session → Prop) :
    Ends (onMachine act) s Q ↔ act.Ends s.machine fun r m => Q r { s with machine := m } := by
  unfold Ends onMachine
  dsimp only
  rcases act s.machine with ⟨a, m⟩ | ⟨f, m⟩ <;> rfl

@[simp] theorem ends_lift (act : Action Machine α) (s : Session)
    (Q : Except Failure α → Session → Prop) :
    Ends (liftM act : Action Session α) s Q ↔
      act.Ends s.machine fun r m => Q r { s with machine := m } :=
  ends_onMachine act s Q

@[simp] theorem ends_getPool (s : Session) (Q : Except Failure CommandPool → Session → Prop) :
    Ends getPool s Q ↔ Q (.ok s.pool) s := Iff.rfl

@[simp] theorem ends_setState (index : Nat) (state : SlotState) (s : Session)
    (Q : Except Failure Unit → Session → Prop) :
    Ends (setState index state) s Q ↔
      Q (.ok ()) { s with pool := s.pool.setState index state } := Iff.rfl

theorem ends_slot (index : Nat) (s : Session) (Q : Except Failure Slot → Session → Prop) :
    Ends (slot index) s Q ↔
      match s.pool.slots[index]? with
      | some slot => Q (.ok slot) s
      | none => Q (.error (.error (.slotOutOfRange index s.pool.slots.length))) s := by
  rw [slot, ends_bind, ends_getPool]
  dsimp only
  unfold CommandPool.slot
  cases s.pool.slots[index]? <;> exact Iff.rfl

theorem ends_drain (s : Session) (Q : Except Failure Unit → Session → Prop) :
    Ends drain s Q ↔
      match s.machine.fault .queueWaitIdle with
      | some code => Q (.error (.error (.vulkan Entrypoint.queueWaitIdle.symbol code)))
          { s with machine :=
              s.machine.refuse .queueWaitIdle (.queueWaitIdle s.pool.queue) code }
      | none => Q (.ok ()) { s with machine := s.machine.drained s.pool.queue } := by
  cases h : s.machine.fault .queueWaitIdle <;> simp [drain, Machine.ends_queueWaitIdle, h]

/-- Nothing waits in the command buffers of the pool. -/
def Blank (s : Session) : Prop := ∀ slot ∈ s.pool.slots, s.machine.work slot.commandBuffer = []

theorem slots_setState (pool : CommandPool) (index : Nat) (state : SlotState) :
    (pool.setState index state).slots =
      pool.slots.modify index fun slot => { slot with state := state } := rfl

theorem slot_setState {pool : CommandPool} {index : Nat} {slot : Slot} (state : SlotState)
    (h : pool.slots[index]? = some slot) :
    (pool.setState index state).slots[index]? = some { slot with state := state } := by
  simp [slots_setState, h]

theorem slot_setState_cases {pool : CommandPool} {index j : Nat} {slot slot' : Slot}
    {state : SlotState} (hslot : pool.slots[index]? = some slot)
    (h : (pool.setState index state).slots[j]? = some slot') :
    j = index ∧ slot' = { slot with state := state } ∨ j ≠ index ∧ pool.slots[j]? = some slot' := by
  by_cases hj : j = index
  · subst hj
    rw [slot_setState state hslot] at h
    exact .inl ⟨rfl, (Option.some.inj h).symm⟩
  · rw [slots_setState, List.getElem?_modify] at h
    simp only [Ne.symm hj, if_false, Option.map_eq_map, Option.map_id_fun', id_eq] at h
    exact .inr ⟨hj, h⟩

theorem commandBuffers_setState (pool : CommandPool) (index : Nat) (state : SlotState) :
    (pool.setState index state).slots.map (·.commandBuffer) = pool.slots.map (·.commandBuffer) := by
  apply List.ext_getElem?
  intro j
  rw [slots_setState, List.getElem?_map, List.getElem?_map, List.getElem?_modify]
  split <;> simp [Function.comp_def]

theorem setState_setState (pool : CommandPool) (index : Nat) (first second : SlotState) :
    (pool.setState index first).setState index second = pool.setState index second := by
  simp only [CommandPool.setState, List.modify_modify_eq]
  rfl

theorem setState_self {pool : CommandPool} {index : Nat} {slot : Slot} (h : pool.slots[index]? = some slot) :
    pool.setState index slot.state = pool := by
  have hslots : (pool.setState index slot.state).slots = pool.slots := by
    apply List.ext_getElem?
    intro j
    rw [slots_setState, List.getElem?_modify]
    split
    case isTrue heq =>
      subst heq
      rw [h]
      rfl
    case isFalse => simp
  rw [slots_setState] at hslots
  unfold CommandPool.setState
  rw [hslots]

/-! ## Opening a slot -/

/-- Begins a slot of which nothing is executing any more. -/
def startRecording (index : Nat) (commandBuffer : Handle) (flags : UInt32) : Action Session Handle := do
  (Machine.beginCommandBuffer commandBuffer flags : Action Machine _).orOperational
    Entrypoint.beginCommandBuffer.symbol
  setState index .recording
  pure commandBuffer

theorem ends_startRecording (index : Nat) (b : Handle) (flags : UInt32) (s : Session)
    (Q : Except Failure Handle → Session → Prop) :
    (startRecording index b flags).Ends s Q ↔
      match s.machine.fault .beginCommandBuffer with
      | some code => Q (.error (.error (.vulkan Entrypoint.beginCommandBuffer.symbol code)))
          { s with machine := s.machine.refuse .beginCommandBuffer (.beginCommandBuffer b flags) code }
      | none => Q (.ok b) ⟨s.machine.began b flags, s.pool.setState index .recording⟩ := by
  rw [startRecording, ends_bind, ends_orOperational, ends_lift, Machine.ends_beginCommandBuffer]
  cases s.machine.fault .beginCommandBuffer <;> exact Iff.rfl

/-- What a begin does depends on the state of its slot. -/
theorem ends_begin (index : Nat) (flags : UInt32) (s : Session) (Q : Except Failure Handle → Session → Prop) :
    (begin index flags).Ends s Q ↔
      match s.pool.slots[index]? with
      | none => Q (.error (.error (.slotOutOfRange index s.pool.slots.length))) s
      | some slot =>
        match slot.state with
        | .recording => Q (.error (.error (.slotAlreadyOpen index))) s
        | .pending => drain.Ends (Console.tell
            (.logged .trace ("Draining queue before re-recording pending slot " ++ toString index)) s) fun r s₁ =>
            match r with
            | .ok _ => (startRecording index slot.commandBuffer flags).Ends s₁ Q
            | .error f => Q (.error f) s₁
        | .idle | .executable => (startRecording index slot.commandBuffer flags).Ends s Q := by
  rw [begin, ends_bind, ends_slot]
  cases s.pool.slots[index]? with
  | none => exact Iff.rfl
  | some slot =>
    rcases slot with ⟨b, _ | _ | _ | _⟩ <;> dsimp only
    case recording => exact Iff.rfl
    case idle | executable => exact Iff.rfl
    case pending =>
      rw [ends_bind, ends_log]
      exact ends_bind ..

/-! ## Flushing a slot -/

theorem ends_finishRecording (index : Nat) (s : Session) (Q : Except Failure Unit → Session → Prop) :
    (finishRecording index).Ends s Q ↔
      match s.pool.slots[index]? with
      | none => Q (.error (.error (.slotOutOfRange index s.pool.slots.length))) s
      | some slot =>
        if slot.state = .recording then
          match s.machine.fault .endCommandBuffer with
          | some code => Q (.error (.error (.vulkan Entrypoint.endCommandBuffer.symbol code)))
              { s with machine := s.machine.refuse .endCommandBuffer (.endCommandBuffer slot.commandBuffer) code }
          | none => Q (.ok ()) ⟨s.machine.ended slot.commandBuffer, s.pool.setState index .executable⟩
        else Q (.error (.error (.slotNotOpen index))) s := by
  rw [finishRecording, ends_bind, ends_slot]
  cases s.pool.slots[index]? with
  | none => exact Iff.rfl
  | some slot =>
    dsimp only
    rw [ends_ite]
    split
    · rw [ends_bind, ends_orOperational, ends_lift, Machine.ends_endCommandBuffer]
      cases s.machine.fault .endCommandBuffer <;> exact Iff.rfl
    · rw [ends_fail]

/-- What a flush does depends on the state of its slot. -/
theorem ends_flush (index : Nat) (wait : Bool) (s : Session) (Q : Except Failure Unit → Session → Prop) :
    (flush index wait).Ends s Q ↔
      match s.pool.slots[index]? with
      | none => Q (.error (.error (.slotOutOfRange index s.pool.slots.length))) s
      | some slot =>
        let submission := if wait then submitAndWait index slot.commandBuffer else submit index slot.commandBuffer
        match slot.state with
        | .idle => Q (.ok ()) (Console.tell
            (.logged .trace ("Slot " ++ toString index ++ " has no recorded work, nothing to flush")) s)
        | .pending =>
          if wait then drain.Ends s fun r s₁ =>
            match r with
            | .ok _ => Q (.ok ()) { s₁ with pool := s₁.pool.setState index .idle }
            | .error f => Q (.error f) s₁
          else Q (.ok ()) s
        | .recording => (finishRecording index).Ends s fun r s₁ =>
            match r with
            | .ok _ => submission.Ends s₁ Q
            | .error f => Q (.error f) s₁
        | .executable => submission.Ends s Q := by
  rw [flush, ends_bind, ends_slot]
  cases s.pool.slots[index]? with
  | none => exact Iff.rfl
  | some slot =>
    rcases slot with ⟨b, _ | _ | _ | _⟩ <;> dsimp only
    case idle => rw [ends_log]
    case recording => exact ends_bind ..
    case executable => exact Iff.rfl
    case pending =>
      rw [ends_ite]
      split
      · exact ends_bind ..
      · rw [ends_pure]

/-- A flush of an open slot ends its recording, and submits it if that is possible. -/
theorem ends_flush_open {index : Nat} {slot : Slot} (s : Session) (hslot : s.pool.slots[index]? = some slot)
    (opened : slot.state = .recording) (wait : Bool) (Q : Except Failure Unit → Session → Prop) :
    (flush index wait).Ends s Q ↔
      match s.machine.fault .endCommandBuffer with
      | some code => Q (.error (.error (.vulkan Entrypoint.endCommandBuffer.symbol code)))
          { s with machine := s.machine.refuse .endCommandBuffer (.endCommandBuffer slot.commandBuffer) code }
      | none => Ends (if wait then submitAndWait index slot.commandBuffer else submit index slot.commandBuffer)
          ⟨s.machine.ended slot.commandBuffer, s.pool.setState index .executable⟩ Q := by
  rw [ends_flush, hslot]
  dsimp only
  rw [opened]
  dsimp only
  rw [ends_finishRecording, hslot]
  dsimp only
  rw [if_pos opened]

/-- A round of flushes stops at the first slot that fails, and names it. -/
theorem ends_flushFrom_succ (wait : Bool) (index n : Nat) (s : Session) (Q : Except Failure Unit → Session → Prop) :
    (flushFrom wait index (n + 1)).Ends s Q ↔ (flush index wait).Ends s fun r s₁ =>
      match r with
      | .ok _ => (flushFrom wait (index + 1) n).Ends s₁ Q
      | .error (.error e) => Q (.error (.error (.flushFailed index e))) s₁
      | .error (.panic p) => Q (.error (.panic p)) s₁ := by
  rw [flushFrom, ends_bind, ends_recover]
  refine ends_congr fun r s₁ => ?_
  rcases r with (e | p) | _ <;> exact Iff.rfl

/-- The pool with its ring one slot further. -/
def turned (pool : CommandPool) : CommandPool :=
  { pool with cursor := (pool.cursor + 1) % pool.slots.length }

/-! ## The parts of an acquire -/

/-- Flushes a slot that is still open, and begins it again. -/
def reopen (index : Nat) : Action Session (Nat × Handle) := do
  log .debug ("Slot " ++ toString index ++ " still open, flushing before reuse")
  flush index true
  modify fun s => { s with pool := { s.pool with autoFlushes := s.pool.autoFlushes + 1 } }
  let commandBuffer ← begin index simultaneousUse
  pure (index, commandBuffer)

/-- An acquire moves the ring on and begins the slot that it pointed at. That this one is open is the only
error which an acquire deals with itself. -/
theorem ends_acquire (s : Session) (Q : Except Failure (Nat × Handle) → Session → Prop) :
    acquire.Ends s Q ↔ (begin s.pool.cursor simultaneousUse).Ends { s with pool := turned s.pool } fun r s₁ =>
      match r with
      | .ok b => Q (.ok (s.pool.cursor, b)) s₁
      | .error (.error (.slotAlreadyOpen _)) => (reopen s.pool.cursor).Ends s₁ Q
      | .error f => Q (.error f) s₁ := by
  rw [acquire, ends_bind, ends_getPool]
  dsimp only
  rw [ends_bind, ends_modify]
  dsimp only
  rw [ends_bind, ends_recover]
  refine ends_congr fun r s₁ => ?_
  rcases r with (e | p) | b
  · cases e <;> exact Iff.rfl
  · exact Iff.rfl
  · exact Iff.rfl

theorem ends_reopen (index : Nat) (s : Session) (Q : Except Failure (Nat × Handle) → Session → Prop) :
    (reopen index).Ends s Q ↔ (flush index true).Ends
      (Console.tell (.logged .debug ("Slot " ++ toString index ++ " still open, flushing before reuse")) s)
      fun r s₁ =>
        match r with
        | .ok _ => (begin index simultaneousUse).Ends
            { s₁ with pool := { s₁.pool with autoFlushes := s₁.pool.autoFlushes + 1 } } fun r s₂ =>
          match r with
          | .ok b => Q (.ok (index, b)) s₂
          | .error f => Q (.error f) s₂
        | .error f => Q (.error f) s₁ := by
  rw [reopen, ends_bind, ends_log]
  dsimp only
  rw [ends_bind]
  refine ends_congr fun r s₁ => ?_
  cases r with
  | error f => exact Iff.rfl
  | ok _ =>
    dsimp only
    rw [ends_bind, ends_modify]
    dsimp only
    rw [ends_bind]
    exact Iff.rfl

/-! ## The parts of a waiting submission -/

/-- Waits for a fence, gives it back, and leaves the slot idle if the wait succeeded. -/
def awaitFence (index : Nat) (fence : Handle) : Action Session Unit := do
  let waited ← Machine.waitForFence fence fenceTimeout
  Machine.destroyFence fence
  (pure waited : Action Session _).orOperational Entrypoint.waitForFence.symbol
  setState index .idle

/-- Submits a slot with a fence and waits for that. -/
def submitFenced (index : Nat) (commandBuffer fence : Handle) : Action Session Unit := do
  let pool ← getPool
  let submission : Action Machine Unit :=
    (pool.device.queueSubmit pool.queue commandBuffer (some fence)).orOperational
      Entrypoint.queueSubmit.symbol
  match ← Action.recover submission with
  | .error e => do
    Machine.destroyFence fence
    Action.fail e
  | .ok () => do
    setState index .pending
    awaitFence index fence

theorem ends_submitAndWait (index : Nat) (commandBuffer : Handle) (s : Session)
    (Q : Except Failure Unit → Session → Prop) :
    Ends (submitAndWait index commandBuffer) s Q ↔
      match s.machine.fault .createFence with
      | some code => Q (.error (.error (.vulkan Entrypoint.createFence.symbol code)))
          { s with machine := s.machine.refuse .createFence .createFence code }
      | none => Ends (submitFenced index commandBuffer (s.machine.lastHandle + 1))
          { s with machine := s.machine.fenced } Q := by
  rw [submitAndWait, ends_bind, ends_getPool]
  dsimp only
  rw [ends_bind, ends_orOperational, ends_lift, Machine.ends_createFence]
  cases s.machine.fault .createFence <;> exact Iff.rfl

/-! ## Slots that an action leaves alone -/

/-- The action leaves slot `j` as it was, however it ends. -/
def Spares (j : Nat) (act : Action Session α) : Prop :=
  ∀ s, act.Ends s fun _ s' => s'.pool.slots[j]? = s.pool.slots[j]?

variable {β : Type} {j : Nat}

theorem Spares.bind {act : Action Session α} {f : α → Action Session β} (h : Spares j act)
    (h' : ∀ a, Spares j (f a)) : Spares j (act >>= f) := fun s => by
  rw [ends_bind]
  refine (h s).mono fun r s' hs => ?_
  cases r with
  | error e => exact hs
  | ok a => exact (h' a s').mono fun _ _ hs' => hs'.trans hs

theorem Spares.lift (act : Action Machine α) : Spares j (liftM act) := fun s => by
  rw [ends_lift]
  exact .of_forall fun _ _ => rfl

theorem Spares.pure (a : α) : Spares j (pure a) := fun _ => rfl

theorem Spares.fail (e : Error) : @Spares α j (Action.fail e) := fun _ => rfl

theorem Spares.log (level : Level) (message : String) : Spares j (log level message) := fun _ => rfl

theorem Spares.getPool : Spares j getPool := fun _ => rfl

theorem Spares.recover {act : Action Session α} (h : Spares j act) : Spares j (recover act) := fun s => by
  rw [ends_recover]
  refine (h s).mono fun r s' hs => ?_
  rcases r with (e | p) | a <;> exact hs

theorem Spares.orOperational {act : Action Session (Except ResultCode α)} (call : String)
    (h : Spares j act) : Spares j (orOperational call act) := fun s => by
  rw [ends_orOperational]
  refine (h s).mono fun r s' hs => ?_
  rcases r with e | code | a <;> exact hs

theorem Spares.slot (index : Nat) : Spares j (slot index) := fun s => by
  rw [ends_slot]
  cases s.pool.slots[index]? <;> rfl

theorem Spares.setState {index : Nat} (h : j ≠ index) (state : SlotState) :
    Spares j (setState index state) := fun s => by
  rw [ends_setState, slots_setState, List.getElem?_modify]
  simp [Ne.symm h]

theorem Spares.startRecording {index : Nat} (h : j ≠ index) (b : Handle) (flags : UInt32) :
    Spares j (startRecording index b flags) :=
  ((Spares.lift _).orOperational _).bind fun _ => (Spares.setState h _).bind fun _ => .pure _

theorem spares_begin {index : Nat} (h : j ≠ index) (flags : UInt32) : Spares j (begin index flags) := by
  refine (Spares.slot index).bind fun slot => ?_
  have opened := Spares.startRecording h slot.commandBuffer flags
  rcases slot with ⟨b, _ | _ | _ | _⟩ <;> dsimp only at opened ⊢
  case recording => exact Spares.bind (.fail _) fun _ => opened
  case idle | executable => exact opened
  case pending =>
    exact (Spares.log _ _).bind fun _ => (Spares.getPool.bind fun _ => (Spares.lift _).orOperational _).bind
      fun _ => opened

theorem spares_finishRecording {index : Nat} (h : j ≠ index) : Spares j (finishRecording index) := by
  refine (Spares.slot index).bind fun slot => ?_
  split
  · exact ((Spares.lift _).orOperational _).bind fun _ => .setState h _
  · exact .fail _

theorem spares_submit {index : Nat} (h : j ≠ index) (b : Handle) : Spares j (submit index b) :=
  Spares.getPool.bind fun _ => ((Spares.lift _).orOperational _).bind fun _ => .setState h _

theorem spares_submitAndWait {index : Nat} (h : j ≠ index) (b : Handle) :
    Spares j (submitAndWait index b) := by
  refine Spares.getPool.bind fun pool => ((Spares.lift _).orOperational _).bind fun fence => ?_
  refine Spares.bind (Spares.lift _).recover fun r => ?_
  rcases r with e | ⟨⟩
  · exact (Spares.lift _).bind fun _ => .fail e
  · refine (Spares.setState h _).bind fun _ => (Spares.lift _).bind fun waited => ?_
    exact (Spares.lift _).bind fun _ => ((Spares.pure _).orOperational _).bind fun _ => .setState h _

theorem spares_flush {index : Nat} (h : j ≠ index) (wait : Bool) : Spares j (flush index wait) := by
  have submission (b : Handle) : Spares j (if wait then submitAndWait index b else submit index b) := by
    split
    · exact spares_submitAndWait h b
    · exact spares_submit h b
  refine (Spares.slot index).bind fun slot => ?_
  rcases slot with ⟨b, _ | _ | _ | _⟩ <;> dsimp only
  case idle => exact .log _ _
  case recording => exact (spares_finishRecording h).bind fun _ => submission b
  case executable => exact submission b
  case pending =>
    split
    · exact (Spares.getPool.bind fun _ => (Spares.lift _).orOperational _).bind fun _ => .setState h _
    · exact .pure _

end CopyBench.Session
