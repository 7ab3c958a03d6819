import CopyBench.Buffer.Staged
import CopyBench.Proofs.Buffer.Upkeep
import CopyBench.Proofs.Pool.Calls
/-!
# Copies that are left behind

A waiting flush whose ending, fence or submission is refused leaves the copies of its slot where they
are. The slot stays open or ended, and whoever flushes it next submits them. A flush that is not
refused empties the slot, whether its copies are executed or break down.
-/

namespace CopyBench

open CopyBench.Action

theorem discreet_waitForFence (code : ResultCode) :
    (Failure.error (.vulkan Entrypoint.waitForFence.symbol code)).Discreet :=
  discreet_vulkan (by simp [Entrypoint.interrupting, Entrypoint.symbol]) code

theorem discreet_beginCommandBuffer (code : ResultCode) :
    (Failure.error (.vulkan Entrypoint.beginCommandBuffer.symbol code)).Discreet :=
  discreet_vulkan (by simp [Entrypoint.interrupting, Entrypoint.symbol]) code

namespace Machine

/-- Whether a waiting submission of a command buffer will reach the machine. -/
def Accepts (m : Machine) (b : Handle) : Prop :=
  m.fault .createFence = none ∧ m.fault .queueSubmit = none ∧ b ∉ m.lostSubmits

end Machine

namespace Session

variable {start : Machine} {events more : List Event} {s s' : Session}

/-- A session in the wake of another one, with the same buffers bound as far as they existed. -/
structure Onward (start : Machine) (events more : List Event) (s s' : Session) : Prop where
  orderly : Machine.Orderly start (events ++ more) s'.machine
  bindings : ∀ h ≤ s.machine.lastHandle, s'.machine.bindings.get? h = s.machine.bindings.get? h
  lastHandle : s.machine.lastHandle ≤ s'.machine.lastHandle

theorem Onward.trans {s₁ s₂ s₃ : Session} {more' : List Event} (h : Onward start events more s₁ s₂)
    (h' : Onward start (events ++ more) more' s₂ s₃) : Onward start events (more ++ more') s₁ s₃ := by
  refine ⟨?_, fun o ho => ?_, Nat.le_trans h.lastHandle h'.lastHandle⟩
  · rw [← List.append_assoc]
    exact h'.orderly
  · rw [h'.bindings o (Nat.le_trans ho h.lastHandle), h.bindings o ho]

theorem Onward.binds {b : BoundBuffer} (h : Onward start events more s s') (bound : s.machine.Binds b) :
    s'.machine.Binds b :=
  ⟨(h.bindings _ bound.handle_le).trans bound.binding, Nat.le_trans bound.handle_le h.lastHandle⟩

/-- Upkeep of what is new. -/
theorem Onward.upkeep {s₁ : Session} {more' : List Event} (h : Onward start events more s s₁)
    {touched : List Handle} {m : Machine} (upkeep : Machine.Upkeep s₁.machine touched more' m)
    (new : ∀ o ∈ touched, s.machine.lastHandle < o) (pool : CommandPool) :
    Onward start events (more ++ more') s ⟨m, pool⟩ := by
  refine ⟨?_, fun o ho => ?_, Nat.le_trans h.lastHandle upkeep.lastHandle⟩
  · rw [← List.append_assoc]
    exact h.orderly.upkeep upkeep
  · rcases upkeep.bindings o (Nat.le_trans ho h.lastHandle) with same | ⟨htouched, -⟩
    · exact same.trans (h.bindings o ho)
    · exact absurd (new o htouched) (Nat.not_lt.2 ho)

theorem Onward.refl (orderly : Machine.Orderly start events s.machine) : Onward start events [] s s :=
  ⟨(List.append_nil events).symm ▸ orderly, fun _ _ => rfl, Nat.le_refl _⟩

theorem onward_upkeep {m : Machine} (orderly : Machine.Orderly start events s.machine)
    (upkeep : Machine.Upkeep s.machine [] more m) (pool : CommandPool) :
    Onward start events more s ⟨m, pool⟩ :=
  (Onward.refl orderly).upkeep upkeep nofun pool

/-- Whether a waiting flush of an open or ended slot will reach the machine. -/
def Retries (s : Session) (slot : Slot) : Prop :=
  (slot.state = .recording → s.machine.fault .endCommandBuffer = none) ∧
    s.machine.Accepts slot.commandBuffer

/-- The command buffer of a slot is emptied, and no other one. -/
def Empties (s s' : Session) (slot : Slot) : Prop :=
  ∀ b, s'.machine.work b = if b = slot.commandBuffer then [] else s.machine.work b

/-- How the copies of a slot are submitted and waited for, when `accepts` says whether they reach the
machine. -/
inductive Flushed (s : Session) (index : Nat) (slot : Slot) (accepts : Prop) (more : List Event) :
    Except Failure Unit → Session → Prop where
  /-- A call before the submission is refused, or the submission itself. -/
  | refused {e : Error} {s' : Session} {state : SlotState} (refuses : ¬accepts)
      (interrupts : e.Interrupts) (plain : ∀ event ∈ more, event.Plain)
      (recorded : s'.machine.recorded = s.machine.recorded)
      (waits : state = .recording ∨ state = .executable) (pool : s'.pool = s.pool.setState index state) :
    Flushed s index slot accepts more (.error (.error e)) s'
  /-- The submission breaks down. -/
  | broken {e : Error} {s' : Session} (accepted : accepts) (interrupts : e.Interrupts)
      (handed : HandedOver slot.commandBuffer .crashed more)
      (fails : (Machine.replay (s.machine.work slot.commandBuffer) s.machine).2 ≠ none)
      (empties : s.Empties s' slot) (pool : s'.pool = s.pool.setState index .executable) :
    Flushed s index slot accepts more (.error (.error e)) s'
  /-- The copies are executed, but the wait for them fails. -/
  | unfinished {f : Failure} {s' : Session} (accepted : accepts) (discreet : f.Discreet)
      (handed : HandedOver slot.commandBuffer .done more)
      (works : (Machine.replay (s.machine.work slot.commandBuffer) s.machine).2 = none)
      (empties : s.Empties s' slot) (pool : s'.pool = s.pool.setState index .pending) :
    Flushed s index slot accepts more (.error f) s'
  | finished {s' : Session} (accepted : accepts) (handed : HandedOver slot.commandBuffer .done more)
      (works : (Machine.replay (s.machine.work slot.commandBuffer) s.machine).2 = none)
      (empties : s.Empties s' slot) (pool : s'.pool = s.pool.setState index .idle) :
    Flushed s index slot accepts more (.ok ()) s'

/-- One call before, that does not matter to the copies. -/
theorem Flushed.after {index : Nat} {slot : Slot} {state : SlotState} {accepts accepts' : Prop}
    {event : Event} {r : Except Failure Unit} {s₁ : Session}
    (h : Flushed s₁ index { slot with state } accepts more r s') (plain : event.Plain)
    (recorded : s₁.machine.recorded = s.machine.recorded)
    (memory : Machine.SameMemory s.machine s₁.machine)
    (pool : ∀ state, s₁.pool.setState index state = s.pool.setState index state)
    (same : accepts ↔ accepts') (spares : ∀ h, event.call ≠ .destroyBuffer h := by simp) :
    Flushed s index slot accepts' (event :: more) r s' := by
  have work_eq (b : Handle) : s₁.machine.work b = s.machine.work b := by
    rw [Machine.work, recorded, Machine.work]
  have replay_eq (copies : List RecordedCopy) :
      (Machine.replay copies s₁.machine).2 = (Machine.replay copies s.machine).2 := (memory.replay copies).2
  cases h with
  | refused refuses interrupts plain' recorded' waits pool' =>
    exact .refused (mt same.2 refuses) interrupts (List.forall_mem_cons.2 ⟨plain, plain'⟩)
      (recorded'.trans recorded) waits (pool'.trans (pool _))
  | broken accepted interrupts handed fails empties pool' =>
    rw [work_eq, replay_eq] at fails
    exact .broken (same.1 accepted) interrupts (handed.cons plain spares) fails
      (fun b => by rw [empties b, work_eq]) (pool'.trans (pool _))
  | unfinished accepted discreet handed works empties pool' =>
    rw [work_eq, replay_eq] at works
    exact .unfinished (same.1 accepted) discreet (handed.cons plain spares) works
      (fun b => by rw [empties b, work_eq]) (pool'.trans (pool _))
  | finished accepted handed works empties pool' =>
    rw [work_eq, replay_eq] at works
    exact .finished (same.1 accepted) (handed.cons plain spares) works
      (fun b => by rw [empties b, work_eq]) (pool'.trans (pool _))

/-! ## One flush -/

/-- The wait for a fence that is live: it is upkeep, and leaves the slot idle or as it was. -/
theorem ends_awaitFence_any (index : Nat) {fence : Handle} (live : fence ∈ s.machine.liveFences) :
    (awaitFence index fence).Ends s fun r s' => ∃ more, Machine.Upkeep s.machine [] more s'.machine ∧
      ((r = .ok () ∧ s'.pool = s.pool.setState index .idle) ∨
        ∃ f, r = .error f ∧ f.Discreet ∧ s'.pool = s.pool) := by
  have refused (code : ResultCode) := (Machine.upkeep_refuse s.machine .waitForFence
    (.waitForFence fence fenceTimeout) code).trans (Machine.upkeep_unfenced _ fence)
  have waited : Machine.Upkeep s.machine [] [⟨.waitForFence fence fenceTimeout, .done⟩]
      (s.machine.waited fence fenceTimeout) :=
    Machine.upkeep_event (plain_of_inert trivial) rfl rfl (Nat.le_refl _) rfl
  rw [awaitFence, ends_bind, ends_lift, Machine.ends_waitForFence _ _ _ live]
  split
  case h_1 code _ => exact ⟨_, refused code, .inr ⟨_, rfl, discreet_waitForFence code, rfl⟩⟩
  split
  · exact ⟨_, refused _, .inr ⟨_, rfl, discreet_waitForFence _, rfl⟩⟩
  · exact ⟨_, waited.trans (Machine.upkeep_unfenced _ fence), .inl ⟨rfl, rfl⟩⟩

/-- A submission that the machine refuses, of an ended slot. -/
theorem flushed_refused (orderly : Machine.Orderly start events s.machine) {index : Nat} {slot : Slot}
    (hslot : s.pool.slots[index]? = some slot) (ready : slot.state = .executable) {accepts : Prop}
    (refuses : ¬accepts) {point : Entrypoint} (mem : point ∈ Entrypoint.interrupting) (code : ResultCode)
    {m : Machine} (upkeep : Machine.Upkeep s.machine [] more m) :
    Onward start events more s ⟨m, s.pool⟩ ∧
      Flushed s index slot accepts more (.error (.error (.vulkan point.symbol code))) ⟨m, s.pool⟩ := by
  have hself : s.pool = s.pool.setState index .executable := by rw [← ready, setState_self hslot]
  exact ⟨onward_upkeep orderly upkeep s.pool,
    .refused refuses (interrupts_of_mem mem code) upkeep.plain upkeep.recorded (.inr rfl) hself⟩

/-- Upkeep after a submission that the machine took. -/
theorem onward_handedOver (orderly : Machine.Orderly start events s.machine) {b : Handle} {fence : Option Handle}
    {m m' : Machine} {cause : Option Panic} (hrun : s.machine.executed b fence = (m, cause))
    (upkeep : Machine.Upkeep
      (m.traced (.queueSubmit s.pool.queue b fence) (Machine.handedReply cause)) [] more m')
    (pool : CommandPool) :
    Onward start events ([⟨.queueSubmit s.pool.queue b fence, Machine.handedReply cause⟩] ++ more) s
      ⟨m', pool⟩ := by
  have h := onward_upkeep (s := ⟨_, s.pool⟩) (orderly.handedOver s.pool.queue b hrun) upkeep pool
  obtain ⟨_, hframe, -⟩ := Machine.executed_frame hrun
  have bindings : m.bindings = s.machine.bindings := by rw [hframe]; rfl
  have lastHandle : s.machine.lastHandle ≤ m.lastHandle := by rw [hframe]; exact Nat.le_refl _
  refine ⟨List.append_assoc .. ▸ h.orderly, fun o ho => ?_, Nat.le_trans lastHandle h.lastHandle⟩
  rw [h.bindings o (Nat.le_trans ho lastHandle)]
  exact congrArg (Table.get? · o) bindings

/-- The submission of an ended slot with a fence that is live. -/
theorem ends_submitFenced_any (orderly : Machine.Orderly start events s.machine) {debugNames : Bool}
    (route : s.pool.device.route = .logical debugNames) {index : Nat} {slot : Slot}
    (hslot : s.pool.slots[index]? = some slot) (ready : slot.state = .executable) {fence : Handle}
    (live : fence ∈ s.machine.liveFences) :
    (submitFenced index slot.commandBuffer fence).Ends s fun r s' => ∃ more,
      Onward start events more s s' ∧ Flushed s index slot
        (s.machine.fault .queueSubmit = none ∧ slot.commandBuffer ∉ s.machine.lostSubmits) more r s' := by
  have hself : s.pool = s.pool.setState index .executable := by rw [← ready, setState_self hslot]
  have live' : ∀ f, some fence = some f → f ∈ s.machine.liveFences := by
    rintro f ⟨⟩
    exact live
  rw [submitFenced, ends_bind, ends_getPool]
  dsimp only
  rw [ends_bind, ends_recover, ends_lift, ends_orOperational, Machine.ends_device_queueSubmit,
    Machine.ends_queueSubmit _ _ _ _ live', route]
  cases hfault : s.machine.fault .queueSubmit with
  | some code =>
    have upkeep := (Machine.upkeep_refuse s.machine .queueSubmit
      (.queueSubmit s.pool.queue slot.commandBuffer (some fence)) code).trans
        (Machine.upkeep_unfenced _ fence)
    exact ⟨_, flushed_refused orderly hslot ready (by simp) (by simp [Entrypoint.interrupting]) code upkeep⟩
  | none =>
    dsimp only
    split
    case isTrue hlost =>
      have lost : Machine.Upkeep s.machine []
          [⟨.queueSubmit s.pool.queue slot.commandBuffer (some fence), .failed .deviceLost⟩]
          (s.machine.lost.refuse .queueSubmit
            (.queueSubmit s.pool.queue slot.commandBuffer (some fence)) .deviceLost) :=
        Machine.upkeep_event (plain_failed ..) rfl rfl (Nat.le_refl _) rfl
      exact ⟨_, flushed_refused orderly hslot ready (fun h => h.2 hlost) (by simp [Entrypoint.interrupting])
        .deviceLost (lost.trans (Machine.upkeep_unfenced _ fence))⟩
    case isFalse hkept =>
      rcases hrun : s.machine.executed slot.commandBuffer (some fence) with ⟨m, cause⟩
      have empties := Machine.work_executed hrun
      have causeEq : (Machine.replay (s.machine.work slot.commandBuffer) s.machine).2 = cause :=
        (Machine.sameMemory_executed ⟨rfl, rfl⟩ hrun).2
      have handed (reply : Reply) {later : List Event} (plain : ∀ event ∈ later, event.Plain) :
          HandedOver slot.commandBuffer reply
            ([⟨.queueSubmit s.pool.queue slot.commandBuffer (some fence), reply⟩] ++ later) :=
        ⟨[], _, _, later, rfl, by simp, plain⟩
      cases cause with
      | some cause =>
        have upkeep := Machine.upkeep_unfenced (m.traced (.queueSubmit s.pool.queue slot.commandBuffer
          (some fence)) .crashed) fence
        exact ⟨_, onward_handedOver orderly hrun upkeep s.pool, .broken ⟨rfl, hkept⟩
          (interrupts_of_mem (by simp [Entrypoint.interrupting]) _) (handed _ upkeep.plain)
          (by simp [causeEq]) empties hself⟩
      | none =>
        dsimp only
        rw [ends_bind, ends_setState]
        dsimp only
        have live'' : fence ∈ (m.traced (.queueSubmit s.pool.queue slot.commandBuffer
            (some fence)) .done).liveFences := by
          rw [Machine.liveFences_traced, Machine.liveFences_executed hrun]
          exact live
        refine (ends_awaitFence_any index live'').mono fun r s' h => ?_
        obtain ⟨more, upkeep, hcases⟩ := h
        have empties' : s.Empties s' slot := fun b => by
          refine Eq.trans ?_ (empties b)
          rw [Machine.work, upkeep.recorded]
          rfl
        refine ⟨_, onward_handedOver orderly hrun upkeep s'.pool, ?_⟩
        rcases hcases with ⟨rfl, hpool⟩ | ⟨f, rfl, discreet, hpool⟩
        · exact .finished ⟨rfl, hkept⟩ (handed _ upkeep.plain) causeEq empties' (hpool.trans (setState_setState ..))
        · exact .unfinished ⟨rfl, hkept⟩ discreet (handed _ upkeep.plain) causeEq empties' hpool

/-- A waiting submission of an ended slot. -/
theorem ends_submitAndWait_any (orderly : Machine.Orderly start events s.machine) {debugNames : Bool}
    (route : s.pool.device.route = .logical debugNames) {index : Nat} {slot : Slot}
    (hslot : s.pool.slots[index]? = some slot) (ready : slot.state = .executable) :
    (submitAndWait index slot.commandBuffer).Ends s fun r s' => ∃ more,
      Onward start events more s s' ∧
        Flushed s index slot (s.machine.Accepts slot.commandBuffer) more r s' := by
  rw [ends_submitAndWait]
  cases hfence : s.machine.fault .createFence with
  | some code =>
    have upkeep := Machine.upkeep_refuse s.machine .createFence .createFence code
    exact ⟨_, flushed_refused orderly hslot ready (by simp [Machine.Accepts, hfence])
      (by simp [Entrypoint.interrupting]) code upkeep⟩
  | none =>
    have upkeep : Machine.Upkeep s.machine [] [⟨.createFence, .handle (s.machine.lastHandle + 1)⟩]
        s.machine.fenced :=
      Machine.upkeep_event (plain_of_inert trivial) rfl rfl (Nat.le_succ _) rfl
    have live : s.machine.lastHandle + 1 ∈ s.machine.fenced.liveFences := List.mem_cons_self
    have hsubmit : s.machine.fenced.fault .queueSubmit = s.machine.fault .queueSubmit :=
      s.machine.fault_tallied (by simp)
    have same : (s.machine.fenced.fault .queueSubmit = none ∧
        slot.commandBuffer ∉ s.machine.fenced.lostSubmits) ↔ s.machine.Accepts slot.commandBuffer := by
      rw [hsubmit, Machine.Accepts, hfence]
      exact (and_iff_right rfl).symm
    dsimp only
    have h := ends_submitFenced_any (s := ⟨s.machine.fenced, s.pool⟩) (orderly.upkeep upkeep) route hslot ready live
    refine h.mono fun r s' h => ?_
    obtain ⟨more, onward, flushed⟩ := h
    exact ⟨_, (onward_upkeep orderly upkeep s.pool).trans onward, flushed.after (plain_of_inert trivial)
      rfl ⟨rfl, rfl⟩ (fun _ => rfl) same⟩

/-- A waiting flush of an open or ended slot. -/
theorem ends_flush_any (orderly : Machine.Orderly start events s.machine) {debugNames : Bool}
    (route : s.pool.device.route = .logical debugNames) {index : Nat} {slot : Slot}
    (hslot : s.pool.slots[index]? = some slot) (waits : slot.state = .recording ∨ slot.state = .executable) :
    (flush index true).Ends s fun r s' => ∃ more,
      Onward start events more s s' ∧ Flushed s index slot (s.Retries slot) more r s' := by
  rcases waits with isOpen | ready
  · rw [ends_flush_open s hslot isOpen]
    cases hend : s.machine.fault .endCommandBuffer with
    | some code =>
      have upkeep := Machine.upkeep_refuse s.machine .endCommandBuffer
        (.endCommandBuffer slot.commandBuffer) code
      have hself : s.pool = s.pool.setState index .recording := by rw [← isOpen, setState_self hslot]
      exact ⟨_, onward_upkeep orderly upkeep s.pool, .refused (by simp [Retries, isOpen, hend])
        (interrupts_of_mem (by simp [Entrypoint.interrupting]) code) upkeep.plain rfl (.inl rfl) hself⟩
    | none =>
      have upkeep : Machine.Upkeep s.machine [] [⟨.endCommandBuffer slot.commandBuffer, .done⟩]
          (s.machine.ended slot.commandBuffer) :=
        Machine.upkeep_event (plain_of_inert trivial) rfl rfl (Nat.le_refl _) rfl
      have fault_ended (point : Entrypoint) (hne : point ≠ .endCommandBuffer) :
          (s.machine.ended slot.commandBuffer).fault point = s.machine.fault point :=
        s.machine.fault_tallied hne
      have same : (s.machine.ended slot.commandBuffer).Accepts slot.commandBuffer ↔ s.Retries slot := by
        have lost : (s.machine.ended slot.commandBuffer).lostSubmits = s.machine.lostSubmits := rfl
        simp [Retries, Machine.Accepts, hend, fault_ended, lost]
      have h := ends_submitAndWait_any (s := ⟨s.machine.ended slot.commandBuffer,
        s.pool.setState index .executable⟩) (orderly.upkeep upkeep) route (slot_setState .executable hslot) rfl
      dsimp only
      rw [if_pos rfl]
      refine h.mono fun r s' h => ?_
      obtain ⟨more, onward, flushed⟩ := h
      exact ⟨_, (onward_upkeep orderly upkeep (s.pool.setState index .executable)).trans onward,
        flushed.after (plain_of_inert trivial) rfl ⟨rfl, rfl⟩
          (fun state => setState_setState ..) same⟩
  · have same : s.machine.Accepts slot.commandBuffer ↔ s.Retries slot := by simp [Retries, ready]
    rw [ends_flush, hslot]
    dsimp only
    rw [ready, ← propext same]
    exact ends_submitAndWait_any orderly route hslot ready

end Session

end CopyBench
