import CopyBench.Proofs.Machine.Reliable
import CopyBench.Proofs.Machine.Steps
import CopyBench.Proofs.Pool.Calls
import CopyBench.Proofs.Trace.Submitted
/-!
# The calls of a flush

The transcript of a flush is fixed by the state of its slot, by whether it waits and by the first call
that fails. It says which calls are made with which answers, how the flush ends and in which state it
leaves the slot. Whatever the transcript, the copies of the command buffers that it submits are executed
and nothing else of the machine's memory moves.
-/

namespace CopyBench

open CopyBench.Action

namespace SlotState

/-- Whether a slot in this state may have copies that wait to be submitted. -/
def holds : SlotState → Bool
  | recording | executable => true
  | idle | pending => false

/-- Where a flush that succeeds leaves a slot. -/
def flushed (wait : Bool) (state : SlotState) : SlotState :=
  if wait = true ∨ state = idle then idle else pending

@[simp] theorem flushed_waiting (state : SlotState) : state.flushed true = idle := by simp [flushed]

@[simp] theorem flushed_flushed (wait : Bool) (state : SlotState) :
    (state.flushed wait).flushed wait = state.flushed wait := by
  cases wait <;> cases state <;> rfl

@[simp] theorem holds_flushed (wait : Bool) (state : SlotState) : (state.flushed wait).holds = false := by
  cases wait <;> cases state <;> rfl

theorem holds_iff {state : SlotState} : state.holds = true ↔ state = recording ∨ state = executable := by
  cases state <;> simp [holds]

end SlotState

namespace Slot

/-- The slot after a flush that succeeds. -/
def flushed (wait : Bool) (slot : Slot) : Slot := { slot with state := slot.state.flushed wait }

/-- The command buffer of a slot, if it may have copies that wait to be submitted. -/
def waiting (slot : Slot) : List Handle := if slot.state.holds then [slot.commandBuffer] else []

@[simp] theorem waiting_flushed (wait : Bool) (slot : Slot) : (slot.flushed wait).waiting = [] := by
  simp [waiting, flushed]

end Slot

/-! ## What delivering calls do to a machine -/

namespace Machine

/-- The later machine comes after calls that deliver: the copies of the command buffers submitted were
executed in the order of the submissions. -/
structure Delivered (m : Machine) (more : List Event) (m' : Machine) : Prop where
  trace : m'.trace.toList = m.trace.toList ++ more
  work : ∀ b, m'.work b = if b ∈ submitted more then [] else m.work b
  bytes : ∃ m₁, replay ((submitted more).flatMap m.work) m = (m₁, none) ∧ SameMemory m₁ m'
  fenced : m'.counters.fencedSubmits = m.counters.fencedSubmits + more.countP Event.fenced
  setting : SameSetting m m'

variable {m m₁ m₂ : Machine} {more more' : List Event}

theorem Delivered.refl (m : Machine) : Delivered m [] m :=
  ⟨by simp, by simp, ⟨m, rfl, rfl, rfl⟩, rfl, ⟨rfl, rfl, rfl, rfl⟩⟩

/-- A note delivers nothing. -/
theorem Delivered.told (note : Note) (h : Delivered m more m₁) :
    Delivered m more (Console.tell note m₁) := by
  obtain ⟨n, hn, same⟩ := h.bytes
  have setting : SameSetting m₁ (Console.tell note m₁) := ⟨rfl, rfl, rfl, rfl⟩
  exact ⟨h.trace, h.work, ⟨n, hn, same.bindings, same.memories⟩, h.fenced, h.setting.trans setting⟩

/-- No command buffer may be submitted in both parts: the second time it would have no copies left. -/
theorem Delivered.trans (h : Delivered m more m₁) (h' : Delivered m₁ more' m₂)
    (apart : ∀ b ∈ submitted more', b ∉ submitted more) : Delivered m (more ++ more') m₂ := by
  refine ⟨?_, fun b => ?_, ?_, ?_, h.setting.trans h'.setting⟩
  · rw [h'.trace, h.trace, List.append_assoc]
  · rw [h'.work b, h.work b, submitted_append]
    by_cases hb : b ∈ submitted more <;> by_cases hb' : b ∈ submitted more' <;> simp [hb, hb']
  · obtain ⟨n, hn, same⟩ := h.bytes
    obtain ⟨n', hn', same'⟩ := h'.bytes
    have hwork : (submitted more').flatMap m₁.work = (submitted more').flatMap m.work :=
      List.flatMap_congr fun b hb => by rw [h.work b, if_neg (apart b hb)]
    rw [hwork] at hn'
    obtain ⟨memory, cause⟩ := same.replay ((submitted more').flatMap m.work)
    rw [hn'] at memory cause
    refine ⟨_, ?_, memory.trans same'⟩
    rw [submitted_append, List.flatMap_append, replay_append, hn]
    exact Prod.ext rfl cause.symm
  · rw [h'.fenced, h.fenced, List.countP_append, Nat.add_assoc]

/-- A call that submits nothing delivers when it leaves the memory and what is recorded alone. -/
theorem delivered_event {event : Event} (submits : event.submits = none)
    (trace : m₁.trace = m.trace.push event) (recorded : m₁.recorded = m.recorded) (same : SameMemory m m₁)
    (counted : m₁.counters.fencedSubmits = m.counters.fencedSubmits) (setting : SameSetting m m₁) :
    Delivered m [event] m₁ := by
  refine ⟨by simp [trace], fun b => ?_, ⟨m, ?_, same⟩, ?_, setting⟩
  · simp [submits, work, recorded]
  · simp [submits, replay]
  · rw [counted, List.countP_singleton, Event.fenced_of_submits submits]
    rfl

theorem delivered_refuse (m : Machine) (point : Entrypoint) (call : Call) (code : ResultCode) :
    Delivered m [⟨call, .failed code⟩] (m.refuse point call code) :=
  delivered_event (by cases call <;> rfl) rfl rfl ⟨rfl, rfl⟩ rfl ⟨rfl, rfl, rfl, rfl⟩

theorem delivered_lost (m : Machine) (call : Call) (code : ResultCode) :
    Delivered m [⟨call, .failed code⟩] (m.lost.refuse .queueSubmit call code) :=
  delivered_event (by cases call <;> rfl) rfl rfl ⟨rfl, rfl⟩ rfl ⟨rfl, rfl, rfl, rfl⟩

theorem delivered_ended (m : Machine) (b : Handle) :
    Delivered m [⟨.endCommandBuffer b, .done⟩] (m.ended b) :=
  delivered_event rfl rfl rfl ⟨rfl, rfl⟩ rfl ⟨rfl, rfl, rfl, rfl⟩

theorem delivered_drained (m : Machine) (queue : Handle) :
    Delivered m [⟨.queueWaitIdle queue, .done⟩] (m.drained queue) :=
  delivered_event rfl rfl rfl ⟨rfl, rfl⟩ rfl ⟨rfl, rfl, rfl, rfl⟩

theorem delivered_fenced (m : Machine) :
    Delivered m [⟨.createFence, .handle (m.lastHandle + 1)⟩] m.fenced :=
  delivered_event rfl rfl rfl ⟨rfl, rfl⟩ rfl ⟨rfl, rfl, rfl, rfl⟩

theorem delivered_waited (m : Machine) (fence : Handle) (timeout : UInt64) :
    Delivered m [⟨.waitForFence fence timeout, .done⟩] (m.waited fence timeout) :=
  delivered_event rfl rfl rfl ⟨rfl, rfl⟩ rfl ⟨rfl, rfl, rfl, rfl⟩

theorem delivered_unfenced (m : Machine) (fence : Handle) :
    Delivered m [⟨.destroyFence fence, .done⟩] (m.unfenced fence) :=
  delivered_event rfl rfl rfl ⟨rfl, rfl⟩ rfl ⟨rfl, rfl, rfl, rfl⟩

theorem delivered_executed {b : Handle} {fence : Option Handle} (queue : Handle)
    (run : m.executed b fence = (m₁, none)) :
    Delivered m [⟨.queueSubmit queue b fence, .done⟩] (m₁.traced (.queueSubmit queue b fence) .done) := by
  have submits : submitted [⟨.queueSubmit queue b fence, .done⟩] = [b] := rfl
  obtain ⟨_, hframe, -⟩ := executed_frame run
  refine ⟨?_, fun b' => ?_, ?_, ?_, ?_⟩
  · simp [trace_executed run]
  · rw [work_traced, work_executed run, submits]
    simp
  · obtain ⟨n, hn, same⟩ := replayed_of_executed run ⟨rfl, rfl⟩
    exact ⟨n, by simpa [submits] using hn, same.bindings, same.memories⟩
  · have counted := congrArg Counters.fencedSubmits (counters_executed run)
    cases fence <;> exact counted
  · constructor <;> rw [hframe] <;> rfl

end Machine

namespace Session

/-! ## Transcripts -/

/-- The calls that follow the making of a fence, how they end, and where they leave the slot. -/
inductive Fenced (queue b fence : Handle) : List Event → Except Failure Unit → SlotState → Prop where
  | refused (code : ResultCode) :
    Fenced queue b fence
      [⟨.queueSubmit queue b (some fence), .failed code⟩, ⟨.destroyFence fence, .done⟩]
      (.error (.error (.vulkan Entrypoint.queueSubmit.symbol code))) .executable
  /-- The submission is accepted, but the wait for it fails. -/
  | unconfirmed (code : ResultCode) :
    Fenced queue b fence
      [⟨.queueSubmit queue b (some fence), .done⟩, ⟨.waitForFence fence fenceTimeout, .failed code⟩,
        ⟨.destroyFence fence, .done⟩]
      (.error (.error (.vulkan Entrypoint.waitForFence.symbol code))) .pending
  | confirmed :
    Fenced queue b fence
      [⟨.queueSubmit queue b (some fence), .done⟩, ⟨.waitForFence fence fenceTimeout, .done⟩,
        ⟨.destroyFence fence, .done⟩]
      (.ok ()) .idle

/-- The calls that submit a command buffer that was ended. -/
inductive Submission (queue b : Handle) : Bool → List Event → Except Failure Unit → SlotState → Prop where
  | refused (code : ResultCode) :
    Submission queue b false [⟨.queueSubmit queue b none, .failed code⟩]
      (.error (.error (.vulkan Entrypoint.queueSubmit.symbol code))) .executable
  | sent : Submission queue b false [⟨.queueSubmit queue b none, .done⟩] (.ok ()) .pending
  | unfenced (code : ResultCode) :
    Submission queue b true [⟨.createFence, .failed code⟩]
      (.error (.error (.vulkan Entrypoint.createFence.symbol code))) .executable
  | fenced {more r state} (fence : Handle) (rest : Fenced queue b fence more r state) :
    Submission queue b true (⟨.createFence, .handle fence⟩ :: more) r state

/-- The calls of a flush of a slot in some state, how it ends, and where it leaves the slot. -/
inductive Transcript (queue b : Handle) (wait : Bool) :
    SlotState → List Event → Except Failure Unit → SlotState → Prop where
  | idle : Transcript queue b wait .idle [] (.ok ()) .idle
  /-- Whoever does not wait leaves a submitted slot as it is. -/
  | running (h : wait = false) : Transcript queue b wait .pending [] (.ok ()) .pending
  | undrained (h : wait = true) (code : ResultCode) :
    Transcript queue b wait .pending [⟨.queueWaitIdle queue, .failed code⟩]
      (.error (.error (.vulkan Entrypoint.queueWaitIdle.symbol code))) .pending
  | drained (h : wait = true) :
    Transcript queue b wait .pending [⟨.queueWaitIdle queue, .done⟩] (.ok ()) .idle
  | unended (code : ResultCode) :
    Transcript queue b wait .recording [⟨.endCommandBuffer b, .failed code⟩]
      (.error (.error (.vulkan Entrypoint.endCommandBuffer.symbol code))) .recording
  | ended {more r state} (rest : Submission queue b wait more r state) :
    Transcript queue b wait .recording (⟨.endCommandBuffer b, .done⟩ :: more) r state
  | executable {more r state} (rest : Submission queue b wait more r state) :
    Transcript queue b wait .executable more r state

variable {queue b fence : Handle} {wait : Bool} {before state : SlotState} {more : List Event}
  {r : Except Failure Unit}

/-- A flush submits the copies that waited in its slot, or they still wait there. -/
theorem Transcript.waiting (h : Transcript queue b wait before more r state) :
    submitted more ++ (Slot.mk b state).waiting = (Slot.mk b before).waiting := by
  cases h with
  | idle | running | undrained | drained | unended => rfl
  | ended rest | executable rest =>
    cases rest with
    | refused | sent | unfenced => rfl
    | fenced fence rest => cases rest <;> rfl

/-- Whether a flush fails or not, the next one is bound for the same state. -/
theorem Transcript.bound (h : Transcript queue b wait before more r state) :
    state.flushed wait = before.flushed wait := by
  cases h with
  | idle | running | undrained | unended => rfl
  | drained h => rw [h]; rfl
  | ended rest | executable rest =>
    cases rest with
    | refused | sent | unfenced => rfl
    | fenced fence rest => cases rest <;> rfl

theorem Transcript.reached (h : Transcript queue b wait before more (.ok ()) state) :
    state = before.flushed wait := by
  cases h with
  | idle => cases wait <;> rfl
  | running h => rw [h]; rfl
  | drained h => rw [h]; rfl
  | ended rest | executable rest =>
    cases rest with
    | sent => rfl
    | fenced fence rest => cases rest; rfl

/-- A flush fails only where a call does. -/
theorem Transcript.exists_code {f : Failure} (h : Transcript queue b wait before more (.error f) state) :
    ∃ call code, f = .error (.vulkan call code) := by
  cases h with
  | undrained | unended => exact ⟨_, _, rfl⟩
  | ended rest | executable rest =>
    cases rest with
    | refused | unfenced => exact ⟨_, _, rfl⟩
    | fenced fence rest => cases rest <;> exact ⟨_, _, rfl⟩

theorem Transcript.calm (h : Transcript queue b wait before more r state) (p : Panic) :
    r ≠ .error (.panic p) := by
  rintro rfl
  obtain ⟨call, code, hf⟩ := h.exists_code
  cases hf

/-- A flush makes calls that deliver, for its own command buffer. -/
theorem Transcript.delivers (h : Transcript queue b wait before more r state) :
    ∀ event ∈ more, event.call.Delivers ∧ event.call.commandBuffers ⊆ [b] := by
  cases h with
  | idle | running | undrained | drained | unended => simp [Call.Delivers, Call.commandBuffers]
  | ended rest | executable rest =>
    cases rest with
    | refused | sent | unfenced => simp [Call.Delivers, Call.commandBuffers]
    | fenced fence rest => cases rest <;> simp [Call.Delivers, Call.commandBuffers]

/-- The calls for slot `index`, the state they leave it in, and how they end. On a machine that fails
nothing they succeed. -/
structure Advance (s : Session) (index : Nat) (state : SlotState) (more : List Event)
    (r : Except Failure Unit) (s' : Session) : Prop where
  pool : s'.pool = s.pool.setState index state
  machine : s.machine.Delivered more s'.machine
  works : s.machine.Reliable → r = .ok ()

variable {s s₁ s' : Session} {index : Nat}

/-- One call comes before, and at most one of the two parts submits. -/
theorem Advance.after {event : Event} {first state : SlotState} {r : Except Failure Unit}
    (h : Advance s₁ index state more r s') (pool : s₁.pool = s.pool.setState index first)
    (machine : s.machine.Delivered [event] s₁.machine)
    (apart : event.submits = none ∨ submitted more = []) :
    Advance s index state (event :: more) r s' := by
  refine ⟨by rw [h.pool, pool, setState_setState], ?_, fun reliable => ?_⟩
  · refine machine.trans h.machine fun b hb => ?_
    rcases apart with none | nil
    · simp [none]
    · simp [nil] at hb
  · exact h.works (reliable.of_same machine.setting)

/-- A call that fails leaves the slot as it is. -/
theorem advance_refuse {slot : Slot} {state : SlotState} (hslot : s.pool.slots[index]? = some slot)
    (hstate : slot.state = state) {point : Entrypoint} {code : ResultCode}
    (fault : s.machine.fault point = some code) (call : Call) (e : Error) :
    Advance s index state [⟨call, .failed code⟩] (.error (.error e))
      { s with machine := s.machine.refuse point call code } := by
  refine ⟨by rw [← hstate, setState_self hslot], Machine.delivered_refuse .., fun reliable => ?_⟩
  exact absurd fault reliable.not_fault

variable {slot : Slot}

theorem ends_awaitFence_fenced (queue b : Handle) {fence : Handle}
    (hslot : s.pool.slots[index]? = some slot) (pending : slot.state = .pending)
    (live : fence ∈ s.machine.liveFences) :
    (awaitFence index fence).Ends s fun r s' => ∃ more state,
      Fenced queue b fence (⟨.queueSubmit queue b (some fence), .done⟩ :: more) r state ∧
        Advance s index state more r s' := by
  have hself : s.pool = s.pool.setState index .pending := by rw [← pending, setState_self hslot]
  -- Whatever the wait answers, the fence is destroyed after it.
  have failed (code : ResultCode) := (Machine.delivered_refuse s.machine .waitForFence
    (.waitForFence fence fenceTimeout) code).trans (Machine.delivered_unfenced _ fence) nofun
  have waited := (Machine.delivered_waited s.machine fence fenceTimeout).trans
    (Machine.delivered_unfenced _ fence) nofun
  rw [awaitFence, ends_bind, ends_lift, Machine.ends_waitForFence _ _ _ live]
  split
  case h_1 code fault =>
    exact ⟨_, _, .unconfirmed code, hself, failed code, fun reliable =>
      absurd fault reliable.not_fault⟩
  split
  case isTrue lost =>
    exact ⟨_, _, .unconfirmed .deviceLost, hself, failed .deviceLost, fun reliable =>
      nomatch reliable.lostWaits.symm.trans lost⟩
  case isFalse => exact ⟨_, _, .confirmed, rfl, waited, fun _ => rfl⟩

theorem ends_submitFenced_fenced {fence : Handle} (hslot : s.pool.slots[index]? = some slot)
    (ready : slot.state = .executable) (live : fence ∈ s.machine.liveFences)
    (sound : ∀ copy ∈ s.machine.work slot.commandBuffer, s.machine.CanCopy copy) :
    (submitFenced index slot.commandBuffer fence).Ends s fun r s' => ∃ more state,
      Fenced s.pool.queue slot.commandBuffer fence more r state ∧ Advance s index state more r s' := by
  have hself : s.pool = s.pool.setState index .executable := by rw [← ready, setState_self hslot]
  rw [submitFenced, ends_bind, ends_getPool]
  dsimp only
  rw [ends_bind, ends_recover, ends_lift, ends_orOperational,
    Machine.ends_submission _ _ _ (some fence) _ (fun _ h => Option.some.inj h ▸ live) sound]
  split
  case h_1 code fault =>
    exact ⟨_, _, .refused code, hself, (Machine.delivered_refuse ..).trans
      (Machine.delivered_unfenced _ fence) nofun, fun reliable =>
        absurd fault reliable.not_fault⟩
  split
  case isTrue lost =>
    exact ⟨_, _, .refused .deviceLost, hself, (Machine.delivered_lost ..).trans
      (Machine.delivered_unfenced _ fence) nofun, fun reliable =>
        absurd (reliable.lostSubmits ▸ lost) List.not_mem_nil⟩
  case isFalse =>
    rcases hrun : s.machine.executed slot.commandBuffer (some fence) with ⟨m, cause⟩
    obtain rfl := (Machine.sameShape_executed sound hrun).1
    dsimp only
    rw [ends_bind, ends_setState]
    have live := Machine.liveFences_executed hrun ▸ live
    refine (ends_awaitFence_fenced s.pool.queue slot.commandBuffer (slot_setState .pending hslot) rfl
      live).mono fun r s' h => ?_
    obtain ⟨more, state, fenced, advance⟩ := h
    have silent : submitted more = [] := by cases fenced <;> rfl
    exact ⟨_, state, fenced,
      advance.after rfl (Machine.delivered_executed s.pool.queue hrun) (.inr silent)⟩

/-- Submits an ended slot, and waits for it if asked to. -/
theorem ends_submission_transcript (hslot : s.pool.slots[index]? = some slot)
    (ready : slot.state = .executable)
    (sound : ∀ copy ∈ s.machine.work slot.commandBuffer, s.machine.CanCopy copy) (wait : Bool) :
    Ends (if wait then submitAndWait index slot.commandBuffer else submit index slot.commandBuffer) s
      fun r s' => ∃ more state, Submission s.pool.queue slot.commandBuffer wait more r state ∧
        Advance s index state more r s' := by
  have hself : s.pool = s.pool.setState index .executable := by rw [← ready, setState_self hslot]
  cases wait with
  | true =>
    rw [if_pos rfl, ends_submitAndWait]
    cases fault : s.machine.fault .createFence with
    | some code => exact ⟨_, _, .unfenced code, advance_refuse hslot ready fault _ _⟩
    | none =>
      refine (ends_submitFenced_fenced (s := { s with machine := s.machine.fenced }) hslot ready
        List.mem_cons_self fun copy hcopy => (sound copy hcopy).of_sameShape ⟨rfl, fun _ => rfl⟩).mono
          fun r s' h => ?_
      obtain ⟨more, state, fenced, advance⟩ := h
      exact ⟨_, state, .fenced _ fenced,
        advance.after hself (Machine.delivered_fenced s.machine) (.inl rfl)⟩
  | false =>
    rw [if_neg Bool.false_ne_true, submit, ends_bind, ends_getPool]
    dsimp only
    rw [ends_bind, ends_orOperational, ends_lift,
      Machine.ends_submission _ _ _ none _ (fun _ h => nomatch h) sound]
    split
    case h_1 code fault => exact ⟨_, _, .refused code, advance_refuse hslot ready fault _ _⟩
    split
    case isTrue lost =>
      exact ⟨_, _, .refused .deviceLost, hself, Machine.delivered_lost .., fun reliable =>
        absurd (reliable.lostSubmits ▸ lost) List.not_mem_nil⟩
    case isFalse =>
      rcases hrun : s.machine.executed slot.commandBuffer none with ⟨m, cause⟩
      obtain rfl := (Machine.sameShape_executed sound hrun).1
      exact ⟨_, _, .sent, rfl, Machine.delivered_executed s.pool.queue hrun, fun _ => rfl⟩

/-- A flush makes the calls of a transcript, and its slot advances by them. -/
theorem ends_flush_transcript (hslot : s.pool.slots[index]? = some slot)
    (sound : slot.state = .recording ∨ slot.state = .executable →
      ∀ copy ∈ s.machine.work slot.commandBuffer, s.machine.CanCopy copy) (wait : Bool) :
    (flush index wait).Ends s fun r s' => ∃ more state,
      Transcript s.pool.queue slot.commandBuffer wait slot.state more r state ∧
        Advance s index state more r s' := by
  have hself : s.pool = s.pool.setState index slot.state := (setState_self hslot).symm
  rcases slot with ⟨b, _ | _ | _ | _⟩ <;> dsimp only at hself sound ⊢
  case recording =>
    rw [ends_flush_open s hslot rfl]
    cases fault : s.machine.fault .endCommandBuffer with
    | some code => exact ⟨_, _, .unended code, advance_refuse hslot rfl fault _ _⟩
    | none =>
      refine (ends_submission_transcript (s := ⟨s.machine.ended b, s.pool.setState index .executable⟩)
        (slot_setState .executable hslot) rfl (fun copy hcopy =>
          (sound (.inl rfl) copy hcopy).of_sameShape ⟨rfl, fun _ => rfl⟩) wait).mono fun r s' h => ?_
      obtain ⟨more, state, submission, advance⟩ := h
      exact ⟨_, state, .ended submission,
        advance.after rfl (Machine.delivered_ended s.machine b) (.inl rfl)⟩
  all_goals
    rw [ends_flush, hslot]
    dsimp only
  case idle =>
    exact ⟨_, _, .idle, hself, .told _ (.refl s.machine), fun _ => rfl⟩
  case executable =>
    refine (ends_submission_transcript hslot rfl (sound (.inr rfl)) wait).mono fun r s' h => ?_
    obtain ⟨more, state, submission, advance⟩ := h
    exact ⟨more, state, .executable submission, advance⟩
  case pending =>
    cases wait with
    | false => exact ⟨_, _, .running rfl, hself, .refl s.machine, fun _ => rfl⟩
    | true =>
      rw [if_pos rfl, ends_drain]
      cases fault : s.machine.fault .queueWaitIdle with
      | some code => exact ⟨_, _, .undrained rfl code, advance_refuse hslot rfl fault _ _⟩
      | none =>
        exact ⟨_, _, .drained rfl, rfl, Machine.delivered_drained s.machine s.pool.queue, fun _ => rfl⟩

end Session

end CopyBench
