import CopyBench.Proofs.Machine.Buffers
import CopyBench.Proofs.Trace.Stale
/-!
# Upkeep of a machine

Most of what is done with a machine, whatever fails, has nothing to do with command buffers. It adds
plain events to the trace, binds only buffers that are new, and unbinds only those that it destroys.
An orderly machine is one whose command buffers hold what its events say, and whose destroyed buffers
are bound no more.
-/

namespace CopyBench

/-- The calls whose refusal leaves copies in a slot. -/
def Entrypoint.interrupting : List Entrypoint := [.endCommandBuffer, .createFence, .queueSubmit]

/-- An error of a call whose refusal leaves copies in a slot. -/
def Error.Interrupts (e : Error) : Prop :=
  ∃ point ∈ Entrypoint.interrupting, ∃ code, e = .vulkan point.symbol code

/-- A failure that leaves no copies in a slot. -/
def Failure.Discreet (f : Failure) : Prop := ∃ e, f = .error e ∧ ¬e.Interrupts

theorem interrupts_of_mem {point : Entrypoint} (h : point ∈ Entrypoint.interrupting) (code : ResultCode) :
    (Error.vulkan point.symbol code).Interrupts := ⟨point, h, code, rfl⟩

theorem discreet_vulkan {call : String} (h : ∀ point ∈ Entrypoint.interrupting, call ≠ point.symbol)
    (code : ResultCode) : (Failure.error (.vulkan call code)).Discreet := by
  refine ⟨_, rfl, ?_⟩
  rintro ⟨point, hmem, code', heq⟩
  injection heq with hcall
  exact h point hmem hcall

theorem discreet_configuration (cause : Misconfiguration) :
    (Failure.error (.configuration cause)).Discreet := by
  refine ⟨_, rfl, ?_⟩
  rintro ⟨point, -, code, heq⟩
  cases heq

namespace Machine

open CopyBench.Action

/-- A change that has nothing to do with command buffers, and takes from the buffers that exist no
others than those touched. -/
structure Upkeep (m : Machine) (touched : List Handle) (more : List Event) (m' : Machine) : Prop where
  trace : m'.trace.toList = m.trace.toList ++ more
  plain : ∀ event ∈ more, event.Plain
  recorded : m'.recorded = m.recorded
  lastHandle : m.lastHandle ≤ m'.lastHandle
  bindings : ∀ h ≤ m.lastHandle, m'.bindings.get? h = m.bindings.get? h ∨
    h ∈ touched ∧ m'.bindings.get? h = none
  gone : ∀ h, Destroyed more h → m'.bindings.get? h = none ∧ h ≤ m'.lastHandle

variable {m m₁ m₂ m₃ : Machine} {touched : List Handle} {more more' : List Event}

theorem Upkeep.trans (h : Upkeep m₁ touched more m₂) (h' : Upkeep m₂ touched more' m₃) :
    Upkeep m₁ touched (more ++ more') m₃ := by
  refine ⟨by rw [h'.trace, h.trace, List.append_assoc], fun event hmem => ?_,
    h'.recorded.trans h.recorded, Nat.le_trans h.lastHandle h'.lastHandle, fun o ho => ?_, fun o ho => ?_⟩
  · rcases List.mem_append.1 hmem with hmem | hmem
    · exact h.plain event hmem
    · exact h'.plain event hmem
  · rcases h'.bindings o (Nat.le_trans ho h.lastHandle) with same | ⟨htouched, hnone⟩
    · rw [same]
      exact h.bindings o ho
    · exact .inr ⟨htouched, hnone⟩
  · rcases List.mem_append.1 ho with hold | hnew
    · obtain ⟨hnone, hle⟩ := h.gone o hold
      refine ⟨?_, Nat.le_trans hle h'.lastHandle⟩
      rcases h'.bindings o hle with same | ⟨-, hnone'⟩
      · rw [same, hnone]
      · exact hnone'
    · exact h'.gone o hnew

/-- What is new need not be listed. -/
theorem Upkeep.narrow {touched' : List Handle} (h : Upkeep m₁ touched more m₂)
    (sub : ∀ o ∈ touched, o ∈ touched' ∨ m₁.lastHandle < o) : Upkeep m₁ touched' more m₂ := by
  refine ⟨h.trace, h.plain, h.recorded, h.lastHandle, fun o ho => ?_, h.gone⟩
  rcases h.bindings o ho with same | ⟨htouched, hnone⟩
  · exact .inl same
  · rcases sub o htouched with hold | hnew
    · exact .inr ⟨hold, hnone⟩
    · exact absurd hnew (Nat.not_lt.2 ho)

theorem Upkeep.weaken {touched' : List Handle} (h : Upkeep m₁ touched more m₂) (sub : touched ⊆ touched') :
    Upkeep m₁ touched' more m₂ :=
  h.narrow fun _ hmem => .inl (sub hmem)

/-- A change without an event. -/
theorem upkeep_silent (trace : m₂.trace = m₁.trace) (recorded : m₂.recorded = m₁.recorded)
    (lastHandle : m₁.lastHandle ≤ m₂.lastHandle) (bindings : m₂.bindings = m₁.bindings) :
    Upkeep m₁ [] [] m₂ :=
  ⟨by rw [trace, List.append_nil], nofun, recorded, lastHandle, fun _ _ => .inl (by rw [bindings]), nofun⟩

/-- A change with one event, of a plain call that destroys no buffer. -/
theorem upkeep_event {event : Event} (plain : event.Plain) (trace : m₂.trace = m₁.trace.push event)
    (recorded : m₂.recorded = m₁.recorded) (lastHandle : m₁.lastHandle ≤ m₂.lastHandle)
    (bindings : m₂.bindings = m₁.bindings) (spares : ∀ h, event.call ≠ .destroyBuffer h := by simp) :
    Upkeep m₁ [] [event] m₂ := by
  refine ⟨by simp [trace], fun e he => ?_, recorded, lastHandle, fun _ _ => .inl (by rw [bindings]),
    fun h hmem => ?_⟩
  · rw [List.mem_singleton.1 he]
    exact plain
  · exact absurd (congrArg Event.call (List.mem_singleton.1 hmem)).symm (spares h)

theorem upkeep_told (m : Machine) (note : Note) : Upkeep m [] [] (Console.tell note m) :=
  upkeep_silent rfl rfl (Nat.le_refl _) rfl

theorem upkeep_refuse (m : Machine) (point : Entrypoint) (call : Call) (code : ResultCode)
    (spares : ∀ h, call ≠ .destroyBuffer h := by simp) :
    Upkeep m [] [⟨call, .failed code⟩] (m.refuse point call code) :=
  upkeep_event (plain_failed call code) rfl rfl (Nat.le_refl _) rfl spares

theorem upkeep_freed (m : Machine) (memory : Handle) :
    Upkeep m [] [⟨.freeMemory memory, .done⟩] (m.freed memory) :=
  upkeep_event (plain_of_inert trivial) rfl rfl (Nat.le_refl _) rfl

theorem upkeep_unfenced (m : Machine) (fence : Handle) :
    Upkeep m [] [⟨.destroyFence fence, .done⟩] (m.unfenced fence) :=
  upkeep_event (plain_of_inert trivial) rfl rfl (Nat.le_refl _) rfl

/-- Destroying a buffer that exists. -/
theorem upkeep_destroyed {h : Handle} (hle : h ≤ m.lastHandle) :
    Upkeep m [h] [⟨.destroyBuffer h, .done⟩] (m.destroyed h) := by
  have hnone : (m.destroyed h).bindings.get? h = none := Table.get?_erase_self ..
  refine ⟨by simp [destroyed], fun e he => ?_, rfl, Nat.le_refl _, fun o ho => ?_, fun o ho => ?_⟩
  · rw [List.mem_singleton.1 he]
    exact plain_of_inert trivial
  · by_cases heq : o = h
    · exact .inr ⟨List.mem_singleton.2 heq, heq ▸ hnone⟩
    · exact .inl (Table.get?_erase_of_ne _ heq)
  · cases List.mem_singleton.1 ho
    exact ⟨hnone, hle⟩

/-! ## Actions that do upkeep only -/

/-- The action touches nothing that exists, however it ends, and leaves no copies behind when it fails. -/
def Tends {α : Type} (act : Action Machine α) : Prop :=
  ∀ m, act.Ends m fun r m' => (∃ more, Upkeep m [] more m') ∧ ∀ f, r = .error f → f.Discreet

section Tends

variable {α β : Type}

theorem Upkeep.refl (m : Machine) : Upkeep m [] [] m := upkeep_silent rfl rfl (Nat.le_refl _) rfl

theorem Tends.pure (a : α) : Tends (pure a) := fun m => ⟨⟨[], .refl m⟩, nofun⟩

theorem Tends.fail {e : Error} (discreet : (Failure.error e).Discreet) : @Tends α (Action.fail e) :=
  fun m => ⟨⟨[], .refl m⟩, by rintro f ⟨⟩; exact discreet⟩

theorem Tends.log (level : Level) (message : String) : Tends (log level message) := fun m =>
  ⟨⟨[], upkeep_told m _⟩, nofun⟩

theorem Tends.bind {act : Action Machine α} {f : α → Action Machine β} (h : Tends act)
    (h' : ∀ a, Tends (f a)) : Tends (act >>= f) := fun m => by
  rw [ends_bind]
  refine (h m).mono fun r m₁ hm₁ => ?_
  obtain ⟨⟨more, upkeep⟩, discreet⟩ := hm₁
  cases r with
  | error e => exact ⟨⟨more, upkeep⟩, by rintro f ⟨⟩; exact discreet e rfl⟩
  | ok a =>
    refine (h' a m₁).mono fun r m₂ hm₂ => ?_
    obtain ⟨⟨more', upkeep'⟩, discreet'⟩ := hm₂
    exact ⟨⟨more ++ more', upkeep.trans upkeep'⟩, discreet'⟩

theorem Tends.ite {p : Prop} [Decidable p] {x y : Action Machine α} (hx : Tends x) (hy : Tends y) :
    Tends (if p then x else y) := by
  split
  · exact hx
  · exact hy

/-- A step that is taken only under a condition. -/
theorem Tends.optional {p : Prop} [Decidable p] {act : Action Machine Unit} {next : Unit → Action Machine α}
    (h : Tends act) (h' : ∀ r, Tends (next r)) : Tends (if p then act >>= next else next ()) :=
  .ite (h.bind h') (h' ())

theorem Tends.orFatal {act : Action Machine (Except ResultCode α)} (call : String) (h : Tends act) :
    Tends (orFatal call act) :=
  h.bind fun r => by
    cases r with
    | ok a => exact .pure a
    | error code => exact .fail (discreet_configuration _)

theorem Tends.orOperational {act : Action Machine (Except ResultCode α)} {call : String}
    (other : ∀ point ∈ Entrypoint.interrupting, call ≠ point.symbol) (h : Tends act) :
    Tends (orOperational call act) :=
  h.bind fun r => by
    cases r with
    | ok a => exact .pure a
    | error code => exact .fail (discreet_vulkan other code)

theorem Tends.onFailure {act : Action Machine α} {cleanup : Action Machine Unit} (h : Tends act)
    (h' : Tends cleanup) : Tends (onFailure act cleanup) := fun m => by
  rw [ends_onFailure]
  refine (h m).mono fun r m₁ hm₁ => ?_
  obtain ⟨⟨more, upkeep⟩, discreet⟩ := hm₁
  cases r with
  | ok a => exact ⟨⟨more, upkeep⟩, nofun⟩
  | error f =>
    refine (h' m₁).mono fun c m₂ hm₂ => ?_
    obtain ⟨⟨more', upkeep'⟩, discreet'⟩ := hm₂
    cases c with
    | ok _ => exact ⟨⟨more ++ more', upkeep.trans upkeep'⟩, discreet⟩
    | error f => exact ⟨⟨more ++ more', upkeep.trans upkeep'⟩, by rintro f ⟨⟩; exact discreet' _ rfl⟩

/-- A call that changes neither the command buffers nor the bindings. -/
theorem tends_affect (point : Entrypoint) {call : Call} {change : Machine → Machine}
    (inert : call.Inert)
    (same : ∀ m, (change m).trace = m.trace ∧ (change m).recorded = m.recorded ∧
      m.lastHandle ≤ (change m).lastHandle ∧ (change m).bindings = m.bindings)
    (spares : ∀ h, call ≠ .destroyBuffer h := by simp) :
    Tends (affect point call change) := fun m => by
  rw [ends_affect]
  cases m.fault point with
  | some code => exact ⟨⟨_, upkeep_refuse m point call code spares⟩, nofun⟩
  | none =>
    obtain ⟨trace, recorded, lastHandle, bindings⟩ := same (m.tallied point)
    exact ⟨⟨[⟨call, .done⟩], upkeep_event (plain_of_inert inert) (congrArg (Array.push · _) trace) recorded
      lastHandle bindings spares⟩, nofun⟩

/-- An event that is only written down. -/
theorem tends_record {call : Call} {reply : Reply} (inert : call.Inert)
    (calm : reply ≠ .crashed := by simp) (spares : ∀ h, call ≠ .destroyBuffer h := by simp) : Tends (record call reply) := fun _ =>
  ⟨⟨_, upkeep_event (plain_of_inert inert calm) rfl rfl (Nat.le_refl _) rfl spares⟩, nofun⟩

theorem tends_nextFault (point : Entrypoint) : Tends (nextFault point) := fun _ =>
  ⟨⟨[], upkeep_silent rfl rfl (Nat.le_refl _) rfl⟩, nofun⟩

theorem tends_nameObject (objectType : UInt32) (handle : Handle) (name : String) :
    Tends (nameObject objectType handle name) :=
  tends_affect .nameObject trivial fun _ => ⟨rfl, rfl, Nat.le_refl _, rfl⟩

theorem tends_mapMemory (memory : Handle) (offset size : UInt64) :
    Tends (mapMemory memory offset size) := fun m => by
  have mapped : Upkeep m [] [⟨.mapMemory memory offset size, .done⟩] (m.mapped memory offset size) :=
    upkeep_event (plain_of_inert trivial) rfl rfl (Nat.le_refl _) rfl
  have missing : Upkeep m [] [⟨.mapMemory memory offset size, .failed .mapFailed⟩]
      (m.mapping.refuse .mapMemory (.mapMemory memory offset size) .mapFailed) :=
    upkeep_event (plain_failed ..) rfl rfl (Nat.le_refl _) rfl
  rw [ends_mapMemory]
  split
  · exact ⟨⟨_, upkeep_refuse m .mapMemory (.mapMemory memory offset size) _⟩, nofun⟩
  split
  · exact ⟨⟨_, mapped⟩, nofun⟩
  · exact ⟨⟨_, missing⟩, nofun⟩

theorem tends_unmapMemory (memory : Handle) : Tends (unmapMemory memory) := fun m => by
  have upkeep : Upkeep m [] [⟨.unmapMemory memory, .done⟩] (m.unmapped memory) :=
    upkeep_event (plain_of_inert trivial) rfl rfl (Nat.le_refl _) rfl
  exact ⟨⟨_, upkeep⟩, nofun⟩

theorem tends_overwrite (memory : Handle) (offset : Nat) (patch : ByteArray) :
    Tends (overwrite memory offset patch) := fun m => by
  rw [ends_overwrite]
  refine ⟨⟨[], ?_⟩, nofun⟩
  unfold overwritten
  cases m.memories.get? memory with
  | none => exact .refl m
  | some bytes => exact upkeep_silent rfl rfl (Nat.le_refl _) rfl

end Tends

/-! ## Orderly machines -/

/-- The machine is where `events` lead from `start`: its command buffers hold what the events say, and
what was destroyed is bound no more. -/
structure Orderly (start : Machine) (events : List Event) (m : Machine) : Prop where
  trace : m.trace.toList = start.trace.toList ++ events
  work : ∀ b, start.lastHandle < b → m.work b = holding events b
  gone : ∀ h, Destroyed events h → m.bindings.get? h = none ∧ h ≤ m.lastHandle

section Orderly

variable {start m m' : Machine} {events more : List Event} {b : Handle}

theorem Orderly.init (unused : ∀ b, m.lastHandle < b → m.work b = []) : Orderly m [] m :=
  ⟨by rw [List.append_nil], unused, nofun⟩

theorem Orderly.upkeep (h : Orderly start events m) {touched : List Handle}
    (upkeep : Upkeep m touched more m') : Orderly start (events ++ more) m' := by
  refine ⟨by rw [upkeep.trace, h.trace, List.append_assoc], fun b hb => ?_, fun o ho => ?_⟩
  · have hwork : m'.work b = m.work b := by rw [Machine.work, upkeep.recorded, Machine.work]
    rw [holding_append_plain upkeep.plain, hwork, h.work b hb]
  · rcases List.mem_append.1 ho with hold | hnew
    · obtain ⟨hnone, hle⟩ := h.gone o hold
      refine ⟨?_, Nat.le_trans hle upkeep.lastHandle⟩
      rcases upkeep.bindings o hle with same | ⟨-, hnone'⟩
      · rw [same, hnone]
      · exact hnone'
    · exact upkeep.gone o hnew

/-- One event that moves copies, and touches no buffer. -/
theorem Orderly.event (h : Orderly start events m) {event : Event}
    (trace : m'.trace = m.trace.push event) (bindings : m'.bindings = m.bindings)
    (lastHandle : m.lastHandle ≤ m'.lastHandle) (work : ∀ b, m'.work b = holdingNext b (m.work b) event)
    (spares : ∀ h, event.call ≠ .destroyBuffer h := by simp) :
    Orderly start (events ++ [event]) m' := by
  refine ⟨by simp [trace, h.trace], fun b hb => ?_, fun o ho => ?_⟩
  · rw [holding_snoc, ← h.work b hb, work]
  · rcases List.mem_append.1 ho with hold | hnew
    · rw [bindings]
      exact ⟨(h.gone o hold).1, Nat.le_trans (h.gone o hold).2 lastHandle⟩
    · exact absurd (congrArg Event.call (List.mem_singleton.1 hnew)).symm (spares o)

theorem Orderly.began (h : Orderly start events m) (b : Handle) (flags : UInt32) :
    Orderly start (events ++ [⟨.beginCommandBuffer b flags, .done⟩]) (m.began b flags) := by
  refine h.event (trace_began ..) rfl (Nat.le_refl _) fun b' => ?_
  rw [work_began]
  simp only [holdingNext, eq_comm]

theorem Orderly.queued (h : Orderly start events m) (b : Handle) (copy : RecordedCopy) :
    Orderly start (events ++ [⟨.copyBuffer b copy.source copy.destination copy.region, .done⟩])
      (m.queued b copy) := by
  refine h.event (trace_queued ..) rfl (Nat.le_refl _) fun b' => ?_
  rw [work_queued]
  simp only [holdingNext, eq_comm]

/-- The reply to a submission that reaches the machine. -/
def handedReply : Option Panic → Reply
  | none => .done
  | some _ => .crashed

theorem Orderly.handedOver (h : Orderly start events m) (queue b : Handle) {fence : Option Handle}
    {cause : Option Panic} (run : m.executed b fence = (m', cause)) :
    Orderly start (events ++ [⟨.queueSubmit queue b fence, handedReply cause⟩])
      (m'.traced (.queueSubmit queue b fence) (handedReply cause)) := by
  obtain ⟨counters, hframe, -⟩ := executed_frame run
  refine h.event ?_ ?_ ?_ fun b' => ?_
  · rw [trace_traced, trace_executed run]
  · exact (congrArg bindings hframe).trans rfl
  · exact Nat.le_of_eq ((congrArg lastHandle hframe).trans rfl).symm
  · rw [work_traced, work_executed run]
    cases cause <;> simp only [holdingNext, handedReply, eq_comm]

end Orderly

end Machine

end CopyBench
