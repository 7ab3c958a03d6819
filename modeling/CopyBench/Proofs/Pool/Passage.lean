import CopyBench.Proofs.Buffer.Calls
import CopyBench.Proofs.Pool.Leftover
/-!
# Copies made one after another

Between two copies that are waited for, a session is at rest: its slots are idle and hold nothing. A
copy that fails ends that in one of two ways. Either nothing is left in any slot, or a call before the
submission was refused and exactly one slot still holds the copy. In neither case was a copy handed
over whose buffers had been destroyed.
-/

namespace CopyBench

open CopyBench.Action

variable {α β : Type} {start : Machine} {events more more' : List Event} {targets : List Handle}
  {s s' : Session}

namespace Session

/-- No slot holds copies. -/
structure Spent (start : Machine) (s : Session) : Prop where
  new : ∀ b ∈ s.pool.slots.map (·.commandBuffer), start.lastHandle < b
  blank : ∀ b ∈ s.pool.slots.map (·.commandBuffer), s.machine.work b = []
  route : ∃ debugNames, s.pool.device.route = .logical debugNames

/-- All slots are idle, and the next one can be acquired. -/
structure Rested (start : Machine) (s : Session) : Prop extends Spent start s where
  cursor : s.pool.cursor < s.pool.slots.length
  idle : ∀ slot ∈ s.pool.slots, slot.state = .idle

/-- One slot is open or ended and holds a copy, and the others are idle. -/
structure Leaves (start : Machine) (s : Session) (index : Nat) (slot : Slot) (copy : RecordedCopy) :
    Prop where
  here : s.pool.slots[index]? = some slot
  waits : slot.state = .recording ∨ slot.state = .executable
  work : s.machine.work slot.commandBuffer = [copy]
  others : ∀ j slot', s.pool.slots[j]? = some slot' → j ≠ index → slot'.state = .idle
  new : start.lastHandle < slot.commandBuffer
  route : ∃ debugNames, s.pool.device.route = .logical debugNames

/-- How a series of copies to `targets` came out. -/
inductive Fared (start : Machine) (targets : List Handle) (more : List Event) :
    Except Failure α → Session → Prop where
  | done {a : α} {s' : Session} (calm : ¬Crashed more) (rested : Rested start s') :
    Fared start targets more (.ok a) s'
  /-- It failed, and nothing is left in any slot. -/
  | failed {e : Error} {s' : Session} (broke : e.Interrupts → Crashed more) (spent : Spent start s') :
    Fared start targets more (.error (.error e)) s'
  /-- It was interrupted, and one copy is left. -/
  | left {e : Error} {s' : Session} {index : Nat} {slot : Slot} {copy : RecordedCopy}
      (interrupts : e.Interrupts) (calm : ¬Crashed more) (leaves : Leaves start s' index slot copy)
      (target : copy.destination ∈ targets) :
    Fared start targets more (.error (.error e)) s'

/-- The way from a session at rest to where a series of copies leads. -/
structure Passage (start : Machine) (events : List Event) (targets : List Handle) (s : Session)
    (more : List Event) (r : Except Failure α) (s' : Session) : Prop where
  onward : Onward start events more s s'
  fresh : Stale (events ++ more) ↔ Stale events
  fared : Fared start targets more r s'

theorem Passage.rested {a : α} (h : Passage start events targets s more (.ok a) s') : Rested start s' := by
  cases h.fared with
  | done _ rested => exact rested

/-- Copies that were all made leave nothing behind that could have a target. -/
theorem Passage.toward {a : α} (h : Passage start events targets s more (.ok a) s')
    (targets' : List Handle) : Passage start events targets' s more (.ok a) s' := by
  refine ⟨h.onward, h.fresh, ?_⟩
  cases h.fared with
  | done calm rested => exact .done calm rested

/-- A failure of the first part is a failure of the whole. -/
theorem Passage.error {f : Failure} (h : Passage start events targets s more (.error f : Except Failure α) s') :
    Passage start events targets s more (.error f : Except Failure β) s' := by
  refine ⟨h.onward, h.fresh, ?_⟩
  cases h.fared with
  | failed broke spent => exact .failed broke spent
  | left interrupts calm leaves target => exact .left interrupts calm leaves target

theorem Passage.trans {a : α} {r : Except Failure β} {s₁ : Session}
    (h : Passage start events targets s more (.ok a) s₁)
    (h' : Passage start (events ++ more) targets s₁ more' r s') :
    Passage start events targets s (more ++ more') r s' := by
  have calm : ¬Crashed more := by
    cases h.fared with
    | done calm _ => exact calm
  refine ⟨h.onward.trans h'.onward, ?_, ?_⟩
  · rw [← List.append_assoc, h'.fresh, h.fresh]
  · have later : Crashed (more ++ more') ↔ Crashed more' := by
      rw [crashed_append]
      exact or_iff_right calm
    cases h'.fared with
    | done calm' rested => exact .done (mt later.1 calm') rested
    | failed broke spent => exact .failed (fun h => later.2 (broke h)) spent
    | left interrupts calm' leaves target => exact .left interrupts (mt later.1 calm') leaves target

/-! ## Upkeep on the way -/

theorem Spent.upkeep (spent : Spent start s) {touched : List Handle} {m : Machine}
    (upkeep : Machine.Upkeep s.machine touched more m) : Spent start ⟨m, s.pool⟩ := by
  refine ⟨spent.new, fun b hb => ?_, spent.route⟩
  show m.work b = []
  rw [Machine.work, upkeep.recorded]
  exact spent.blank b hb

theorem Leaves.upkeep {index : Nat} {slot : Slot} {copy : RecordedCopy} (h : Leaves start s index slot copy)
    {touched : List Handle} {m : Machine} (upkeep : Machine.Upkeep s.machine touched more m) :
    Leaves start ⟨m, s.pool⟩ index slot copy := by
  refine ⟨h.here, h.waits, ?_, h.others, h.new, h.route⟩
  show m.work slot.commandBuffer = [copy]
  rw [Machine.work, upkeep.recorded]
  exact h.work

theorem Passage.refl (orderly : Machine.Orderly start events s.machine) (rested : Rested start s) (a : α) :
    Passage start events targets s [] (.ok a) s := by
  refine ⟨.refl orderly, by rw [List.append_nil], .done ?_ rested⟩
  rintro ⟨_, h, -⟩
  cases h

/-- Upkeep of what is new, after copies that were all made. -/
theorem Passage.upkeep {s₁ : Session} {a : α} (h : Passage start events targets s more (.ok a) s₁)
    {touched : List Handle} {m : Machine} (upkeep : Machine.Upkeep s₁.machine touched more' m)
    (new : ∀ o ∈ touched, s.machine.lastHandle < o) {r : Except Failure β}
    (discreet : ∀ f, r = .error f → f.Discreet) :
    Passage start events targets s (more ++ more') r ⟨m, s₁.pool⟩ := by
  have spent := h.rested.toSpent.upkeep upkeep
  have calm : ¬Crashed (more ++ more') := by
    cases h.fared with
    | done calm _ => rw [crashed_append]; exact not_or.2 ⟨calm, not_crashed_of_plain upkeep.plain⟩
  refine ⟨h.onward.upkeep upkeep new s₁.pool, ?_, ?_⟩
  · rw [← List.append_assoc, stale_append_plain upkeep.plain, h.fresh]
  · cases r with
    | ok b => exact .done calm ⟨spent, h.rested.cursor, h.rested.idle⟩
    | error f =>
      obtain ⟨e, rfl, silent⟩ := discreet f rfl
      exact .failed (fun h => absurd h silent) spent

/-- Upkeep at rest, of what is new. -/
theorem passage_upkeep (orderly : Machine.Orderly start events s.machine) (rested : Rested start s)
    {m : Machine} (upkeep : Machine.Upkeep s.machine [] more m) {r : Except Failure α}
    (discreet : ∀ f, r = .error f → f.Discreet) : Passage start events targets s more r ⟨m, s.pool⟩ :=
  (Passage.refl orderly rested ()).upkeep upkeep nofun discreet

/-! ## One copy -/

/-- Acquiring an idle slot begins it, unless the device refuses that. -/
theorem ends_acquire_idle {slot : Slot} (hslot : s.pool.slots[s.pool.cursor]? = some slot)
    (idle : slot.state = .idle) (Q : Except Failure (Nat × Handle) → Session → Prop) :
    Ends acquire s Q ↔
      match s.machine.fault .beginCommandBuffer with
      | some code => Q (.error (.error (.vulkan Entrypoint.beginCommandBuffer.symbol code)))
          ⟨s.machine.refuse .beginCommandBuffer (.beginCommandBuffer slot.commandBuffer simultaneousUse) code,
            turned s.pool⟩
      | none => Q (.ok (s.pool.cursor, slot.commandBuffer))
          ⟨s.machine.began slot.commandBuffer simultaneousUse,
            (turned s.pool).setState s.pool.cursor .recording⟩ := by
  have hturned : (turned s.pool).slots[s.pool.cursor]? = some slot := hslot
  rw [ends_acquire, ends_begin, hturned]
  dsimp only
  rw [idle]
  dsimp only
  exact ends_startRecording ..

/-- There is nothing to acquire where the ring has no slot. -/
theorem ends_acquire_none (hslot : s.pool.slots[s.pool.cursor]? = none)
    (Q : Except Failure (Nat × Handle) → Session → Prop) :
    Ends acquire s Q ↔
      Q (.error (.error (.slotOutOfRange s.pool.cursor s.pool.slots.length))) ⟨s.machine, turned s.pool⟩ := by
  have hturned : (turned s.pool).slots[s.pool.cursor]? = none := hslot
  rw [ends_acquire, ends_begin, hturned]
  exact Iff.rfl

/-- The next slot of a session at rest is begun, or the device refuses that. -/
theorem ends_acquire_rested (rested : Rested start s) :
    acquire.Ends s fun r s' =>
      (∃ f more, r = .error f ∧ f.Discreet ∧ Machine.Upkeep s.machine [] more s'.machine ∧
        s'.pool = turned s.pool) ∨
      ∃ slot, s.pool.slots[s.pool.cursor]? = some slot ∧ r = .ok (s.pool.cursor, slot.commandBuffer) ∧
        s' = ⟨s.machine.began slot.commandBuffer simultaneousUse,
          (turned s.pool).setState s.pool.cursor .recording⟩ := by
  obtain ⟨slot, hslot, hidle⟩ : ∃ slot, s.pool.slots[s.pool.cursor]? = some slot ∧ slot.state = .idle :=
    ⟨_, List.getElem?_eq_getElem rested.cursor, rested.idle _ (List.getElem_mem _)⟩
  rw [ends_acquire_idle hslot hidle]
  cases s.machine.fault .beginCommandBuffer with
  | some code =>
    have upkeep := Machine.upkeep_refuse s.machine .beginCommandBuffer
      (.beginCommandBuffer slot.commandBuffer simultaneousUse) code
    exact .inl ⟨_, _, rfl, discreet_beginCommandBuffer code, upkeep, rfl⟩
  | none => exact .inr ⟨slot, hslot, rfl, rfl⟩

/-- The ring of a session at rest can be turned. -/
theorem Rested.turn (rested : Rested start s) : Rested start ⟨s.machine, turned s.pool⟩ :=
  ⟨⟨rested.new, rested.blank, rested.route⟩,
    Nat.mod_lt _ (Nat.lt_of_le_of_lt (Nat.zero_le _) rested.cursor), rested.idle⟩

/-! ## Recording it -/

end Session

/-- The machine after a command buffer was begun and given a copy. -/
def Machine.opened (m : Machine) (b : Handle) (copy : RecordedCopy) : Machine :=
  (m.began b Session.simultaneousUse).queued b copy

/-- The events of beginning a command buffer and giving it a copy. -/
def opening (b : Handle) (copy : RecordedCopy) : List Event :=
  [⟨.beginCommandBuffer b Session.simultaneousUse, .done⟩,
    ⟨.copyBuffer b copy.source copy.destination copy.region, .done⟩]

theorem Machine.work_opened (m : Machine) (b : Handle) (copy : RecordedCopy) (b' : Handle) :
    (m.opened b copy).work b' = if b' = b then [copy] else m.work b' := by
  rw [opened, work_queued, work_began]
  split <;> rfl

theorem stale_opening (events : List Event) (b : Handle) (copy : RecordedCopy) :
    Stale (events ++ opening b copy) ↔ Stale events := by
  have quiet {event : Event} (h : ∀ queue b fence, event.call ≠ .queueSubmit queue b fence)
      (before : List Event) : ¬event.StaleAfter before := by
    rintro ⟨b, ⟨queue, fence, hcall, -⟩, -⟩
    exact h queue b fence hcall
  rw [opening, List.append_cons, stale_snoc, stale_snoc, or_iff_left (quiet (by simp) _),
    or_iff_left (quiet (by simp) _)]

theorem not_crashed_opening (b : Handle) (copy : RecordedCopy) : ¬Crashed (opening b copy) := by
  simp [Crashed, opening]

namespace Session

theorem onward_opened (orderly : Machine.Orderly start events s.machine) (b : Handle) (copy : RecordedCopy)
    (pool : CommandPool) : Onward start events (opening b copy) s ⟨s.machine.opened b copy, pool⟩ := by
  have h := (orderly.began b simultaneousUse).queued b copy
  rw [List.append_assoc] at h
  exact ⟨h, fun _ _ => rfl, Nat.le_refl _⟩

/-- The buffers of the copy are there when it is recorded. -/
theorem alive_opening (orderly : Machine.Orderly start events s.machine) {b : Handle} (new : start.lastHandle < b)
    {buffer source : BoundBuffer} (bound : s.machine.Binds buffer) (sourceBound : s.machine.Binds source)
    (region : Region) :
    ¬∃ c ∈ holding (events ++ opening b ⟨source.handle, buffer.handle, region⟩) b,
      Destroyed (events ++ opening b ⟨source.handle, buffer.handle, region⟩) c.source ∨
        Destroyed (events ++ opening b ⟨source.handle, buffer.handle, region⟩) c.destination := by
  have onward := onward_opened orderly b ⟨source.handle, buffer.handle, region⟩ s.pool
  rw [← onward.orderly.work b new, Machine.work_opened, if_pos rfl]
  rintro ⟨c, hc, h⟩
  cases List.mem_singleton.1 hc
  rcases h with h | h
  · exact BoundBuffer.not_destroyed onward.orderly (onward.binds sourceBound) h
  · exact BoundBuffer.not_destroyed onward.orderly (onward.binds bound) h

/-- The session of a slot that was begun and given a copy. -/
def opened (s : Session) (slot : Slot) (copy : RecordedCopy) : Session :=
  ⟨s.machine.opened slot.commandBuffer copy, (turned s.pool).setState s.pool.cursor .recording⟩

/-- When the slot is emptied, no slot holds copies. -/
theorem Spent.emptied (spent : Spent start s) {slot : Slot} {copy : RecordedCopy} {state : SlotState}
    (empties : (s.opened slot copy).Empties s' { slot with state := .recording })
    (pool : s'.pool = (s.opened slot copy).pool.setState s.pool.cursor state) : Spent start s' := by
  have buffers : s'.pool.slots.map (·.commandBuffer) = s.pool.slots.map (·.commandBuffer) := by
    rw [pool, opened, setState_setState, commandBuffers_setState]
    rfl
  refine ⟨buffers ▸ spent.new, fun b hb => ?_, ?_⟩
  · rw [empties b]
    split
    case isTrue => rfl
    case isFalse hne =>
      rw [opened, Machine.work_opened, if_neg hne]
      exact spent.blank b (buffers ▸ hb)
  · rw [pool]
    exact spent.route

/-- When the slot is not emptied, it is the one that holds a copy. -/
theorem Rested.leaves (rested : Rested start s) {slot : Slot} (hslot : s.pool.slots[s.pool.cursor]? = some slot)
    {copy : RecordedCopy} {state : SlotState} (waits : state = .recording ∨ state = .executable)
    (recorded : s'.machine.recorded = (s.opened slot copy).machine.recorded)
    (pool : s'.pool = (s.opened slot copy).pool.setState s.pool.cursor state) :
    Leaves start s' s.pool.cursor { slot with state } copy := by
  have hpool : s'.pool = (turned s.pool).setState s.pool.cursor state := by
    rw [pool, opened, setState_setState]
  have hturned : (turned s.pool).slots[s.pool.cursor]? = some slot := hslot
  refine ⟨?_, waits, ?_, fun j slot' hslot' hne => ?_, ?_, ?_⟩
  · rw [hpool]
    exact slot_setState state hturned
  · rw [Machine.work, recorded]
    exact (Machine.work_opened ..).trans (if_pos rfl)
  · rw [hpool] at hslot'
    rcases slot_setState_cases hturned hslot' with ⟨heq, -⟩ | ⟨-, hother⟩
    · exact absurd heq hne
    · exact rested.idle slot' (List.mem_of_getElem? hother)
  · exact rested.new slot.commandBuffer (List.mem_map_of_mem (List.mem_of_getElem? hslot))
  · rw [hpool]
    exact rested.route

/-- How the flush of a copy comes out is how the copy comes out. -/
theorem fared_flushed (rested : Rested start s) {slot : Slot} (hslot : s.pool.slots[s.pool.cursor]? = some slot)
    {copy : RecordedCopy} (target : copy.destination ∈ targets) {accepts : Prop} {r : Except Failure Unit}
    (flushed : Flushed (s.opened slot copy) s.pool.cursor { slot with state := .recording } accepts more r s') :
    Fared start targets (opening slot.commandBuffer copy ++ more) r s' := by
  have hturned : (turned s.pool).slots[s.pool.cursor]? = some slot := hslot
  have crashed_iff : Crashed (opening slot.commandBuffer copy ++ more) ↔ Crashed more := by
    rw [crashed_append]
    exact or_iff_right (not_crashed_opening slot.commandBuffer copy)
  cases flushed with
  | refused refuses interrupts plain recorded waits pool =>
    exact .left interrupts (mt crashed_iff.1 (not_crashed_of_plain plain))
      (rested.leaves hslot waits recorded pool) target
  | broken accepted interrupts handed fails empties pool =>
    exact .failed (fun _ => crashed_iff.2 ((crashed_handedOver handed).2 rfl)) (rested.toSpent.emptied empties pool)
  | unfinished accepted discreet handed works empties pool =>
    obtain ⟨e, rfl, silent⟩ := discreet
    exact .failed (fun h => absurd h silent) (rested.toSpent.emptied empties pool)
  | finished accepted handed works empties pool =>
    have hpool : s'.pool = turned s.pool := by
      rw [pool, opened, setState_setState, ← rested.idle slot (List.mem_of_getElem? hslot)]
      exact setState_self hturned
    refine .done (mt crashed_iff.1 fun h => ?_) ⟨rested.toSpent.emptied empties pool, ?_, ?_⟩
    · cases (crashed_handedOver handed).1 h
    · rw [hpool]
      exact rested.turn.cursor
    · rw [hpool]
      exact rested.idle

/-- A flush hands over nothing but what the slot holds. -/
theorem Flushed.stale_iff {index : Nat} {slot : Slot} {accepts : Prop} {r : Except Failure Unit}
    (flushed : Flushed s index slot accepts more r s')
    (alive : ¬∃ c ∈ holding events slot.commandBuffer,
      Destroyed events c.source ∨ Destroyed events c.destination) :
    Stale (events ++ more) ↔ Stale events := by
  cases flushed with
  | refused refuses interrupts plain recorded waits pool => exact stale_append_plain plain events
  | broken accepted interrupts handed fails empties pool =>
    rw [stale_handedOver handed (.inr rfl), or_iff_left alive]
  | unfinished accepted discreet handed works empties pool =>
    rw [stale_handedOver handed (.inl rfl), or_iff_left alive]
  | finished accepted handed works empties pool =>
    rw [stale_handedOver handed (.inl rfl), or_iff_left alive]

/-- One copy that is waited for, between buffers that are bound. -/
theorem ends_copyFrom_any (orderly : Machine.Orderly start events s.machine) (rested : Rested start s)
    {buffer source : BoundBuffer} (bound : s.machine.Binds buffer) (sourceBound : s.machine.Binds source)
    (region : Region) (target : buffer.handle ∈ targets) :
    (StagedBuffer.copyFrom buffer source region true).Ends s fun r s' => ∃ more,
      Passage start events targets s more r s' := by
  rw [StagedBuffer.ends_copyFrom]
  refine (ends_acquire_rested rested).mono fun r s₁ h => ?_
  obtain ⟨f, more, rfl, discreet, upkeep, hpool⟩ | ⟨slot, hslot, rfl, rfl⟩ := h
  · obtain ⟨m, pool⟩ := s₁
    subst hpool
    have h : Passage start events targets ⟨s.machine, turned s.pool⟩ more (.error f : Except Failure Unit)
        ⟨m, turned s.pool⟩ := by
      refine passage_upkeep (s := ⟨s.machine, turned s.pool⟩) orderly rested.turn upkeep ?_
      rintro f ⟨⟩
      exact discreet
    exact ⟨more, ⟨h.onward.orderly, h.onward.bindings, h.onward.lastHandle⟩, h.fresh, h.fared⟩
  · have hturned : (turned s.pool).slots[s.pool.cursor]? = some slot := hslot
    have onward := onward_opened orderly slot.commandBuffer ⟨source.handle, buffer.handle, region⟩
      ((turned s.pool).setState s.pool.cursor .recording)
    have new := rested.new _ (List.mem_map_of_mem (List.mem_of_getElem? hslot))
    have alive := alive_opening orderly new bound sourceBound region
    obtain ⟨debugNames, route⟩ := rested.route
    refine (ends_flush_any onward.orderly route (slot_setState .recording hturned)
      (.inl rfl)).mono fun r s' h => ?_
    obtain ⟨more, onward', flushed⟩ := h
    refine ⟨_, onward.trans onward', ?_, fared_flushed rested hslot target flushed⟩
    rw [← List.append_assoc, flushed.stale_iff alive, stale_opening]

end Session

end CopyBench
