import CopyBench.Pool.Operation
import CopyBench.Proofs.Machine.Names
/-!
# Pools and names

No operation of a pool can tell apart sessions that have the same pool on machines that are the same, names
aside.
-/

namespace CopyBench

open CopyBench.Action

theorem CommandPool.blind_create (device : Device) (queue : Handle) (depth : Nat) (family : UInt32) (level : Int) :
    Blind Machine.NamesAside (create device queue depth family level) := by
  refine .ite (.fail _) (.ite (.fail _) ?_)
  refine ((Device.blind_createCommandPool device family).orFatal _).andThen fun pool => ?_
  have allotted := ((Machine.blind_allocateCommandBuffers pool level depth).orFatal
    Entrypoint.allocateCommandBuffers.symbol).onFailure (Device.blind_destroyCommandPool device pool [])
  exact allotted.andThen fun buffers => (Machine.blind_log _ _).andThen fun _ => .pure rfl

namespace Session

/-- Sessions with the same pool on machines that are the same, names aside. -/
structure NamesAside (s s' : Session) : Prop where
  machine : s.machine.NamesAside s'.machine
  pool : s.pool = s'.pool

variable {α α' : Type} {R : α → α' → Prop}

theorem matches_onMachine {act : Action Machine α} {act' : Action Machine α'}
    (h : Matches Machine.NamesAside R act act') : Matches NamesAside R (onMachine act) (onMachine act') := by
  rintro ⟨m, pool⟩ ⟨m', _⟩ ⟨hm, rfl⟩
  unfold onMachine
  dsimp only
  match act m, act' m', h m m' hm with
  | _, _, .ok value machine => exact .ok value ⟨machine, rfl⟩
  | _, _, .error f machine => exact .error f ⟨machine, rfl⟩

theorem blind_onMachine {act : Action Machine α} (h : Blind Machine.NamesAside act) :
    Blind NamesAside (liftM act : Action Session α) :=
  matches_onMachine h

theorem blind_log (level : Level) (message : String) : Blind NamesAside (log level message : Action Session Unit) :=
  .log (fun _ _ _ h => ⟨h.machine, h.pool⟩) level message

theorem blind_getPool : Blind NamesAside getPool := fun _ _ h => .ok h.pool h

/-- A change of the pool. -/
theorem blind_modify (f : CommandPool → CommandPool) :
    Blind NamesAside (modify fun s : Session => { s with pool := f s.pool }) :=
  .modify fun _ _ h => ⟨h.machine, congrArg f h.pool⟩

theorem blind_setState (index : Nat) (state : SlotState) : Blind NamesAside (setState index state) :=
  blind_modify (·.setState index state)

theorem blind_slot (index : Nat) : Blind NamesAside (slot index) :=
  blind_getPool.andThen fun pool => by
    cases pool.slot index with
    | ok slot => exact .pure rfl
    | error e => exact .fail e

/-! ## Operations -/

theorem blind_drain : Blind NamesAside drain :=
  blind_getPool.andThen fun pool => by
    have waited : Blind Machine.NamesAside (Machine.queueWaitIdle pool.queue) := Machine.blind_affect fun _ => rfl
    exact (blind_onMachine waited).orOperational _

theorem blind_begin (index : Nat) (flags : UInt32) : Blind NamesAside (begin index flags) := by
  refine (blind_slot index).andThen fun slot => ?_
  have begun : Blind Machine.NamesAside (Machine.beginCommandBuffer slot.commandBuffer flags) :=
    Machine.blind_affect fun _ => rfl
  have opening := ((blind_onMachine begun).orOperational Entrypoint.beginCommandBuffer.symbol).andThen fun _ =>
    (blind_setState index .recording).andThen fun _ => .pure (rfl : slot.commandBuffer = slot.commandBuffer)
  rcases slot with ⟨b, _ | _ | _ | _⟩ <;> dsimp only
  case recording => exact Matches.andThen (.fail _) fun _ => opening
  case pending => exact (blind_log _ _).andThen fun _ => blind_drain.andThen fun _ => opening
  case idle | executable => exact opening

theorem blind_finishRecording (index : Nat) : Blind NamesAside (finishRecording index) := by
  refine (blind_slot index).andThen fun slot => .ite ?_ (.fail _)
  have ended : Blind Machine.NamesAside (Machine.endCommandBuffer slot.commandBuffer) :=
    Machine.blind_affect fun _ => rfl
  exact ((blind_onMachine ended).orOperational _).andThen fun _ => blind_setState _ _

theorem blind_submit (index : Nat) (b : Handle) : Blind NamesAside (submit index b) :=
  blind_getPool.andThen fun pool =>
    ((blind_onMachine (Device.blind_queueSubmit pool.device pool.queue b none)).orOperational _).andThen fun _ =>
      blind_setState _ _

theorem blind_submitAndWait (index : Nat) (b : Handle) : Blind NamesAside (submitAndWait index b) := by
  have created : Blind Machine.NamesAside Machine.createFence := Machine.blind_make fun _ _ => rfl
  refine blind_getPool.andThen fun pool => ((blind_onMachine created).orOperational _).andThen fun fence => ?_
  have destroyed := blind_onMachine (Machine.blind_destroyFence fence)
  have submitted := (Device.blind_queueSubmit pool.device pool.queue b (some fence)).orOperational
    Entrypoint.queueSubmit.symbol
  refine (blind_onMachine submitted).recover.andThen fun r => ?_
  cases r with
  | error e => exact destroyed.andThen fun _ => .fail e
  | ok _ =>
    refine (blind_setState _ _).andThen fun _ =>
      (blind_onMachine (Machine.blind_waitForFence fence fenceTimeout)).andThen fun waited =>
        destroyed.andThen fun _ => ?_
    exact ((Blind.pure waited).orOperational _).andThen fun _ => blind_setState _ _

theorem blind_flush (index : Nat) (wait : Bool) : Blind NamesAside (flush index wait) := by
  refine (blind_slot index).andThen fun slot => ?_
  have submission (b : Handle) : Blind NamesAside (if wait then submitAndWait index b else submit index b) :=
    .ite (blind_submitAndWait index b) (blind_submit index b)
  rcases slot with ⟨b, _ | _ | _ | _⟩ <;> dsimp only
  case idle => exact blind_log _ _
  case recording => exact (blind_finishRecording index).andThen fun _ => submission b
  case executable => exact submission b
  case pending => exact .ite (blind_drain.andThen fun _ => blind_setState _ _) (.pure rfl)

theorem blind_flushFrom (wait : Bool) (n : Nat) : ∀ index, Blind NamesAside (flushFrom wait index n) := by
  induction n with
  | zero => exact fun _ => .pure ()
  | succ n ih =>
    refine fun index => (blind_flush index wait).recover.andThen fun r => ?_
    cases r with
    | ok _ => exact ih (index + 1)
    | error source => exact .fail _

theorem blind_flushAll (wait : Bool) : Blind NamesAside (flushAll wait) :=
  blind_getPool.andThen fun pool => blind_flushFrom wait pool.slots.length 0

theorem blind_acquire : Blind NamesAside acquire := by
  refine blind_getPool.andThen fun pool => ?_
  refine (blind_modify fun p => { p with cursor := (pool.cursor + 1) % p.slots.length }).andThen fun _ => ?_
  refine (blind_begin _ _).recover.andThen fun r => ?_
  rcases r with e | b
  · cases e with
    | slotAlreadyOpen i =>
      refine (blind_log _ _).andThen fun _ => (blind_flush _ _).andThen fun _ => ?_
      refine (blind_modify fun p => { p with autoFlushes := p.autoFlushes + 1 }).andThen fun _ => ?_
      exact (blind_begin _ _).andThen fun _ => .pure rfl
    | configuration | slotNotOpen | slotOutOfRange | flushFailed | mapRange | vulkan => exact .fail _
  · exact .pure rfl

theorem blind_close (index : Nat) (ending : Ending) : Blind NamesAside (close index ending) := by
  cases ending with
  | keep => exact blind_finishRecording index
  | submit | finish => exact blind_flush index _

theorem blind_perform (operation : PoolOperation) : Blind NamesAside (perform operation) := by
  cases operation with
  | begin index flags => exact (blind_begin index flags).andThen fun _ => .pure rfl
  | finishRecording index => exact (blind_finishRecording index).andThen fun _ => .pure rfl
  | flush index wait => exact (blind_flush index wait).andThen fun _ => .pure rfl
  | flushAll wait => exact (blind_flushAll wait).andThen fun _ => .pure rfl
  | acquire => exact blind_acquire.andThen fun _ => .pure rfl
  | close index ending => exact (blind_close index ending).andThen fun _ => .pure rfl
  | commandBuffer index => exact (blind_slot index).andThen fun _ => .pure rfl
  | state index => exact (blind_slot index).andThen fun _ => .pure rfl

end Session

end CopyBench
