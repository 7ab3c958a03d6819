import CopyBench.Proofs.Pool.Accounts
import CopyBench.Proofs.Pool.Failures
import CopyBench.Proofs.Pool.Rounds
/-!
# Acquiring slots in turn

The slots of a pool are handed out in turn, one further with every acquire whether it succeeds or not. An
acquire makes calls for its own slot only. What it gives is that slot's command buffer, begun anew after
the work that the slot still had was done with.
-/

namespace CopyBench

open CopyBench.Action

namespace Session

variable {α : Type} {s s' start : Session} {slot : Slot} {index : Nat} {more : List Event}

/-! ## What one acquire does -/

/-- The session in which an acquire flushes the slot at the cursor if that is still open. -/
def reopening (s : Session) : Session :=
  Console.tell (.logged .debug ("Slot " ++ toString s.pool.cursor ++ " still open, flushing before reuse"))
    { s with pool := turned s.pool }

/-- Whether an acquire finds its slot open and flushes it with success. -/
def reflushes (s : Session) : Bool :=
  s.pool.slots[s.pool.cursor]?.any fun slot => slot.state = .recording &&
    match flush s.pool.cursor true s.reopening with
    | .ok _ _ => true
    | .error _ _ => false

/-- The pool after an acquire that left its slot in a state. -/
def acquired (s : Session) (state : SlotState) : CommandPool :=
  { s.pool.setState s.pool.cursor state with
    cursor := (s.pool.cursor + 1) % s.pool.slots.length
    autoFlushes := s.pool.autoFlushes + if s.reflushes then 1 else 0 }

/-- The calls after which a slot in some state is begun. -/
inductive Reopens (queue b : Handle) : SlotState → List Event → Prop where
  | rested {state} (h : state = .idle ∨ state = .executable) : Reopens queue b state []
  | drained : Reopens queue b .pending [⟨.queueWaitIdle queue, .done⟩]
  | flushed (fence : Handle) :
    Reopens queue b .recording
      [⟨.endCommandBuffer b, .done⟩, ⟨.createFence, .handle fence⟩,
        ⟨.queueSubmit queue b (some fence), .done⟩, ⟨.waitForFence fence fenceTimeout, .done⟩,
        ⟨.destroyFence fence, .done⟩]

/-- A waiting flush of an open slot that succeeds makes the calls after which the slot is begun. -/
theorem Transcript.reopens {queue b : Handle} {state : SlotState}
    (h : Transcript queue b true .recording more (.ok ()) state) : Reopens queue b .recording more := by
  cases h with
  | ended rest =>
    cases rest with
    | fenced fence rest =>
      cases rest
      exact .flushed fence

/-- Calls for one command buffer, up to where it is begun or something fails. -/
structure Calls (m : Machine) (b : Handle) (more : List Event) (m' : Machine) : Prop where
  delivered : m.Delivered more m'
  own : ∀ event ∈ more, event.call.commandBuffers ⊆ [b]

/-- The slot is begun, which gives `a`, or not. The pool is `opened` then or `failed`. -/
inductive Opens (s : Session) (slot : Slot) (flags : UInt32) (failed opened : CommandPool) (a : α) :
    Except Failure α → Session → Prop where
  | failed {more m} (calls : Calls s.machine slot.commandBuffer more m) (call : String) (code : ResultCode) :
    Opens s slot flags failed opened a (.error (.error (.vulkan call code))) ⟨m, failed⟩
  | opened {more m} (calls : Calls s.machine slot.commandBuffer more m)
      (reopens : Reopens s.pool.queue slot.commandBuffer slot.state more) :
    Opens s slot flags failed opened a (.ok a) ⟨m.began slot.commandBuffer flags, opened⟩

theorem Calls.refl (m : Machine) (b : Handle) : Calls m b [] m := ⟨.refl m, nofun⟩

theorem Calls.refuse {m m' : Machine} {b : Handle} (calls : Calls m b more m') (flags : UInt32)
    (code : ResultCode) : Calls m b (more ++ [⟨.beginCommandBuffer b flags, .failed code⟩])
      (m'.refuse .beginCommandBuffer (.beginCommandBuffer b flags) code) := by
  refine ⟨calls.delivered.trans (Machine.delivered_refuse ..) nofun, fun event hmem => ?_⟩
  rcases List.mem_append.1 hmem with hmem | hmem
  · exact calls.own event hmem
  · rw [List.mem_singleton.1 hmem]
    exact List.Subset.refl _

theorem ends_begin_idle {b : Handle} (hslot : s.pool.slots[index]? = some ⟨b, .idle⟩) (flags : UInt32)
    (Q : Except Failure Handle → Session → Prop) :
    (begin index flags).Ends s Q ↔
      match s.machine.fault .beginCommandBuffer with
      | some code => Q (.error (.error (.vulkan Entrypoint.beginCommandBuffer.symbol code)))
          { s with machine := s.machine.refuse .beginCommandBuffer (.beginCommandBuffer b flags) code }
      | none => Q (.ok b) ⟨s.machine.began b flags, s.pool.setState index .recording⟩ := by
  rw [ends_begin, hslot]
  exact ends_startRecording index b flags s Q

/-- A closed slot is begun, after a wait for the queue if it is pending. -/
theorem ends_begin_opens (hslot : s.pool.slots[index]? = some slot) (closed : slot.state ≠ .recording)
    (flags : UInt32) :
    (begin index flags).Ends s fun r s' => (s.machine.Reliable → r = .ok slot.commandBuffer) ∧
      Opens s slot flags s.pool (s.pool.setState index .recording) slot.commandBuffer r s' := by
  -- What is left once nothing of the slot is executing any more.
  have rest {s₁ : Session} {more : List Event} (hpool : s₁.pool = s.pool)
      (calls : Calls s.machine slot.commandBuffer more s₁.machine)
      (reopens : Reopens s.pool.queue slot.commandBuffer slot.state more) :
      (startRecording index slot.commandBuffer flags).Ends s₁ fun r s' =>
        (s.machine.Reliable → r = .ok slot.commandBuffer) ∧
          Opens s slot flags s.pool (s.pool.setState index .recording) slot.commandBuffer r s' := by
    rw [ends_startRecording, ← hpool]
    cases fault : s₁.machine.fault .beginCommandBuffer with
    | some code =>
      refine ⟨fun reliable => ?_, .failed (calls.refuse flags code) _ code⟩
      exact absurd fault (reliable.of_same calls.delivered.setting).not_fault
    | none => exact ⟨fun _ => rfl, .opened calls reopens⟩
  rw [ends_begin, hslot]
  rcases slot with ⟨b, _ | _ | _ | _⟩ <;> dsimp only at closed rest ⊢
  case recording => exact absurd rfl closed
  case idle => exact rest rfl (.refl _ b) (.rested (.inl rfl))
  case executable => exact rest rfl (.refl _ b) (.rested (.inr rfl))
  case pending =>
    rw [ends_drain]
    -- A note comes first, and then the one call that is made before the begin.
    have calls {note : Note} {reply : Reply} {m : Machine} (h : (Console.tell note s.machine).Delivered
        [⟨.queueWaitIdle s.pool.queue, reply⟩] m) :
        Calls s.machine b [⟨.queueWaitIdle s.pool.queue, reply⟩] m :=
      ⟨(Machine.Delivered.told note (.refl _)).trans h fun _ _ => List.not_mem_nil, by simp [Call.commandBuffers]⟩
    cases fault : (Console.tell _ s : Session).machine.fault .queueWaitIdle with
    | some code =>
      refine ⟨fun reliable => ?_, .failed (calls (Machine.delivered_refuse ..)) _ code⟩
      exact absurd fault reliable.not_fault
    | none => exact rest rfl (calls (Machine.delivered_drained ..)) .drained

theorem reflushes_closed (hslot : s.pool.slots[s.pool.cursor]? = some slot)
    (closed : slot.state ≠ .recording) : s.reflushes = false := by
  simp [reflushes, hslot, closed]

theorem reflushes_of_ok (hslot : s.pool.slots[s.pool.cursor]? = some slot)
    (opened : slot.state = .recording) (run : flush s.pool.cursor true s.reopening = .ok () s') :
    s.reflushes = true := by
  simp [reflushes, hslot, opened, run]

theorem reflushes_of_error {f : Failure} (run : flush s.pool.cursor true s.reopening = .error f s') :
    s.reflushes = false := by
  simp [reflushes, run]

/-- How an acquire comes out for the slot at the cursor. -/
structure Acquires (s : Session) (slot : Slot) (r : Except Failure (Nat × Handle)) (s' : Session) : Prop where
  works : s.machine.Reliable → r = .ok (s.pool.cursor, slot.commandBuffer)
  flushes : ∀ a, r = .ok a → s.reflushes = decide (slot.state = .recording)
  /-- Where it fails, the slot is open only if it was before. -/
  opens : ∃ state, (state = .recording → slot.state = .recording) ∧
    Opens s slot simultaneousUse (s.acquired state) (s.acquired .recording)
      (s.pool.cursor, slot.commandBuffer) r s'

/-- An acquire opens a slot that is closed. -/
theorem ends_acquire_shut (hslot : s.pool.slots[s.pool.cursor]? = some slot)
    (closed : slot.state ≠ .recording) : acquire.Ends s (Acquires s slot) := by
  have flushes := reflushes_closed hslot closed
  have hfailed : s.acquired slot.state = turned s.pool := by
    rw [acquired, flushes, setState_self hslot]
    rfl
  have hopened : s.acquired .recording = (turned s.pool).setState s.pool.cursor .recording := by
    rw [acquired, flushes]
    rfl
  rw [ends_acquire]
  refine (ends_begin_opens (s := { s with pool := turned s.pool }) hslot closed simultaneousUse).mono
    fun r s₁ h => ?_
  obtain ⟨works, opens⟩ := h
  cases opens with
  | failed calls call code =>
    refine ⟨fun reliable => ?_, fun _ h => (by cases h), slot.state, id, ?_⟩
    · cases works reliable
    · rw [← hfailed]
      exact Opens.failed (s := s) calls call code
  | opened calls reopens =>
    refine ⟨fun _ => rfl, fun _ _ => by rw [flushes, decide_eq_false closed], slot.state, id, ?_⟩
    rw [← hopened]
    exact Opens.opened (s := s) calls reopens

/-- An acquire flushes a slot that is open, and opens it again. -/
theorem ends_acquire_open (hslot : s.pool.slots[s.pool.cursor]? = some slot)
    (opened : slot.state = .recording) (sound : s.Sound) : acquire.Ends s (Acquires s slot) := by
  rw [ends_acquire]
  refine (ends_begin_open (s := { s with pool := turned s.pool }) hslot opened simultaneousUse _).2 ?_
  dsimp only
  rw [ends_reopen]
  refine ((ends_flush_transcript (s := s.reopening) hslot (sound _ slot hslot) true).and
    (ends_self ..)).mono fun r s₁ h => ?_
  obtain ⟨⟨more, state, transcript, advance⟩, run⟩ := h
  rw [opened] at transcript
  have calls : Calls s.machine slot.commandBuffer more s₁.machine :=
    ⟨(Machine.Delivered.told _ (.refl _)).trans advance.machine fun _ _ => List.not_mem_nil,
      fun event hmem => (transcript.delivers event hmem).2⟩
  rcases r with (e | p) | ⟨⟩
  · have flushes := reflushes_of_error (eq_error_of_ends run)
    have hpool : s₁.pool = s.acquired state := by
      rw [advance.pool, acquired, flushes]
      rfl
    obtain ⟨call, code, he⟩ := transcript.exists_code
    cases he
    refine ⟨fun reliable => ?_, fun _ h => (by cases h), state, fun _ => opened, ?_⟩
    · cases advance.works (reliable.of_same ⟨rfl, rfl, rfl, rfl⟩)
    · rw [← hpool]
      exact .failed calls call code
  · exact absurd rfl (transcript.calm p)
  · have flushes := reflushes_of_ok hslot opened (eq_ok_of_ends run)
    obtain rfl : state = .idle := transcript.reached
    have hidle : { s₁.pool with autoFlushes := s₁.pool.autoFlushes + 1 } = s.acquired .idle := by
      rw [advance.pool, acquired, flushes]
      rfl
    have hopened : (s.acquired .idle).setState s.pool.cursor .recording = s.acquired .recording :=
      congrArg (fun p : CommandPool => { s.acquired .idle with slots := p.slots })
        (setState_setState s.pool s.pool.cursor .idle .recording)
    have hslot₁ : (s.acquired .idle).slots[s.pool.cursor]? = some ⟨slot.commandBuffer, .idle⟩ :=
      slot_setState .idle hslot
    dsimp only
    rw [hidle, ends_begin_idle hslot₁]
    cases fault : s₁.machine.fault .beginCommandBuffer with
    | some code =>
      refine ⟨fun reliable => ?_, fun _ h => (by cases h), .idle, fun _ => opened,
        .failed (calls.refuse simultaneousUse code) _ code⟩
      exact absurd fault (reliable.of_same calls.delivered.setting).not_fault
    | none =>
      refine ⟨fun _ => rfl, fun _ _ => by rw [flushes, decide_eq_true opened], .idle, fun _ => opened, ?_⟩
      rw [hopened]
      refine .opened calls ?_
      rw [opened]
      exact transcript.reopens

theorem ends_acquire_opens (hslot : s.pool.slots[s.pool.cursor]? = some slot) (sound : s.Sound) :
    acquire.Ends s (Acquires s slot) := by
  by_cases opened : slot.state = .recording
  · exact ends_acquire_open hslot opened sound
  · exact ends_acquire_shut hslot opened

end Session

end CopyBench
