import CopyBench.Proofs.Buffer.Attempts
import CopyBench.Proofs.Buffer.Tidy
/-!
# What becomes of copies that were not submitted

A request may record a copy and then fail, so that the copy is left in a slot of the pool without having been
submitted. It waits there as long as every request that is to submit the slot or to begin it again fails. The
first of these that does not fail decides: the copy is executed once if the slot is submitted, by a flush of
the slot or of all slots or because it is acquired while it is open, and it is never executed if the slot is
begun again while it is ended.
-/

namespace CopyBench

open CopyBench.Action

open Machine (DeviceSteps)

namespace Workspace

/-- The trace of a run. -/
abbrev Run.events (run : Run) : List Event := run.workspace.session.machine.trace.toList

/-- What a request has in store for the copies of slot `index` at this point of a run. -/
def Run.fate (run : Run) (request : BufferRequest) (index : Nat) (slotState : SlotState) : Fate :=
  request.fate index run.workspace.session.pool.cursor slotState

/-- A copy that was recorded into a command buffer after some events. -/
structure Remnant where
  early : List Event
  commandBuffer : Handle
  copy : RecordedCopy

namespace Remnant

/-- How often the copy was executed by the end of a trace. -/
def executions (remnant : Remnant) (events : List Event) : Nat :=
  (Ledger.taken events).executed.count ((Ledger.taken remnant.early).next remnant.copy)

/-- The copy was recorded, and the events after that have decided its fate or spared it. -/
def Had (remnant : Remnant) (fate : Fate) (m : Machine) : Prop :=
  ∃ later, m.trace.toList = remnant.early ++ remnant.copy.event remnant.commandBuffer :: later ∧
    Lot remnant.commandBuffer fate later

/-- The copy waits in slot `index`: the slot is open or ended, the copy is all that is recorded there, and it was
not executed. -/
structure Waits (remnant : Remnant) (run : Run) (index : Nat) (state : SlotState) : Prop where
  holds : run.workspace.session.Holds index remnant.commandBuffer state
  work : run.workspace.session.machine.work remnant.commandBuffer = [remnant.copy]
  unexecuted : remnant.executions run.events = 0
  had : remnant.Had .held run.workspace.session.machine

/-- Whatever is done later, the copy is executed once if that is its fate, and otherwise not at all. -/
def Settled (remnant : Remnant) (run : Run) (fate : Fate) : Prop :=
  ∀ run', Run.Steps run run' → remnant.executions run'.events = if fate = .executed then 1 else 0

/-- What a request comes to for a copy that waits in slot `index`. -/
inductive Takes (remnant : Remnant) (run : Run) (index : Nat) (state : SlotState) (request : BufferRequest) : Prop where
  /-- The copy goes on waiting, since the request has nothing in store for it, or failed, or needs a buffer that
  is not there. A slot that was ended is not opened meanwhile. -/
  | kept {state' : SlotState} (waits : remnant.Waits (run.performed request) index state')
      (ended : state = .executable → state' = .executable)
      (excused : run.fate request index state = .held ∨
        (perform request).Ends run.workspace fun r _ => (∃ f, r = .error f) ∨ r = .ok .notHeld)
  | decided (decides : run.fate request index state ≠ .held)
      (settled : remnant.Settled (run.performed request) (run.fate request index state))

/-- What a request that failed has left of a copy in slot `index`, by the calls that it made after recording it. -/
inductive Left (remnant : Remnant) (failed : Run) (index : Nat) (after : List Event) : Prop where
  /-- The recording could not be ended, and the slot is open. -/
  | unended {code : ResultCode} (refused : ⟨.endCommandBuffer remnant.commandBuffer, .failed code⟩ ∈ after)
      (waits : remnant.Waits failed index .recording)
  /-- There was no fence or the submission was refused, and the slot is ended. -/
  | unsubmitted {event : Event} (mem : event ∈ after) (declines : event.Declines remnant.commandBuffer)
      (waits : remnant.Waits failed index .executable)
  /-- The submission broke down on the machine, which took the copy. -/
  | broke {queue : Handle} {fence : Option Handle}
      (broke : ⟨.queueSubmit queue remnant.commandBuffer fence, .crashed⟩ ∈ after)
      (slot : failed.workspace.session.pool.slots[index]? = some ⟨remnant.commandBuffer, .executable⟩)
      (settled : remnant.Settled failed .executed)

/-- What has become of a copy that waited in slot `index` by a later point of a run. -/
inductive Course (remnant : Remnant) (failed : Run) (index : Nat) (run : Run) : Prop where
  /-- It waits, and what the next request does with it is known. -/
  | waits {state : SlotState} (waits : remnant.Waits run index state)
      (next : ∀ request, remnant.Takes run index state request)
  /-- It waited until a request decided its fate. -/
  | settled {run₁ : Run} {request : BufferRequest} {state : SlotState} (before : Run.Steps failed run₁)
      (waits : remnant.Waits run₁ index state) (decides : run₁.fate request index state ≠ .held)
      (settled : remnant.Settled (run₁.performed request) (run₁.fate request index state))
      (after : Run.Steps (run₁.performed request) run)

variable {remnant : Remnant} {run run' : Run} {m m' : Machine} {index : Nat} {state : SlotState} {fate : Fate}

theorem Had.executions (had : remnant.Had fate m) :
    remnant.executions m.trace.toList = if fate = .executed then 1 else 0 := by
  obtain ⟨later, trace, lot⟩ := had
  rw [Remnant.executions, trace]
  exact Ledger.count_taken lot _ _

/-- What has been decided stays so. -/
theorem Had.settled (had : remnant.Had fate run.workspace.session.machine) (decided : fate ≠ .held) :
    remnant.Settled run fate := by
  intro run' steps
  obtain ⟨later, trace, lot⟩ := had
  obtain ⟨more, trace'⟩ := steps.device.grown
  have had : remnant.Had fate run'.workspace.session.machine :=
    ⟨later ++ more, by rw [trace', trace, List.append_assoc]; rfl, lot.append decided more⟩
  exact had.executions

theorem Waits.had_later (waits : remnant.Waits run index state)
    (fares : run.workspace.session.Fares index remnant.commandBuffer fate run'.workspace.session) :
    remnant.Had fate run'.workspace.session.machine := by
  obtain ⟨later, trace, lot⟩ := waits.had
  obtain ⟨more, trace', lot'⟩ := fares.lot
  cases lot with
  | held spared => exact ⟨later ++ more, by rw [trace', trace, List.append_assoc]; rfl, lot'.after_spared spared⟩

/-- As long as the slot is left alone, the copy goes on waiting. -/
theorem Waits.later (waits : remnant.Waits run index state)
    (fares : run.workspace.session.Fares index remnant.commandBuffer .held run'.workspace.session)
    (booked : run.workspace.session.machine.Booked) (booked' : run'.workspace.session.machine.Booked) :
    ∃ state', remnant.Waits run' index state' ∧ (state = .executable → state' = .executable) := by
  obtain ⟨state', holds⟩ := fares.holds rfl
  have had := waits.had_later fares
  have work : run'.workspace.session.machine.work remnant.commandBuffer = [remnant.copy] := by
    obtain ⟨more, trace, lot⟩ := fares.lot
    cases lot with
    | held spared => rw [booked'.work, trace, holding_append_spared spared, ← booked.work, waits.work]
  refine ⟨state', ⟨holds, work, had.executions, had⟩, ?_⟩
  rintro rfl
  have slot := fares.ended rfl waits.holds.slot
  exact (Slot.mk.inj (Option.some.inj (holds.slot.symm.trans slot))).2

/-- A copy that waits is dealt with by the next request. -/
theorem Waits.takes (waits : remnant.Waits run index state) (booked : run.workspace.session.machine.Booked)
    (request : BufferRequest) : remnant.Takes run index state request := by
  have booked' := (Run.Steps.device (.single (.perform request))).booked booked
  obtain ⟨r, meets, outcome⟩ : ∃ r, run.workspace.Meets index remnant.commandBuffer (run.fate request index state) r
      (run.performed request).workspace ∧ (perform request).Ends run.workspace fun r' _ => r' = r :=
    (ends_perform_meets waits.holds request).exists_outcome
  cases meets with
  | met fares =>
    by_cases held : run.fate request index state = .held
    · obtain ⟨state', waits', ended⟩ := waits.later (held ▸ fares) booked booked'
      exact .kept waits' ended (.inl held)
    · exact .decided held ((waits.had_later fares).settled held)
  | failed fares f =>
    obtain ⟨state', waits', ended⟩ := waits.later fares booked booked'
    exact .kept waits' ended (.inr (outcome.mono fun r _ h => .inl ⟨f, h⟩))
  | absent fares =>
    obtain ⟨state', waits', ended⟩ := waits.later fares booked booked'
    exact .kept waits' ended (.inr (outcome.mono fun r _ h => .inr h))

/-- A copy that waits takes its course, whatever is done later. -/
theorem Waits.course (waits : remnant.Waits run index state) (booked : run.workspace.session.machine.Booked)
    (later : Run.Steps run run') : remnant.Course run index run' := by
  induction later with
  | refl => exact .waits waits (waits.takes booked)
  | @tail run₁ run₂ steps last ih =>
    have booked₁ := (Run.Steps.device steps).booked booked
    have booked₂ := (Run.Steps.device (steps.tail last)).booked booked
    cases ih with
    | settled before waits decides settled after => exact .settled before waits decides settled (after.tail last)
    | waits waits next =>
      cases last with
      | perform request =>
        cases next request with
        | kept waits => exact .waits waits (waits.takes booked₂)
        | decided decides settled => exact .settled steps waits decides settled .refl
      | range ranging =>
        have fares := ranging.maintain Session.bufferStable_fares (.refl waits.holds)
        obtain ⟨state', waits', -⟩ := waits.later fares booked₁ booked₂
        exact .waits waits' (waits'.takes booked₂)

end Remnant

/-! ## What a request leaves -/

variable {start : Workspace} {run run' : Run} {request : BufferRequest}

/-- A request fails after it has recorded a copy, and no submission of the copy's command buffer was accepted by
then. -/
structure Run.Strands (run : Run) (request : BufferRequest) (remnant : Remnant) (after : List Event) : Prop where
  copies : request.Copies
  fails : ∃ f, perform request run.workspace = .error f (run.performed request).workspace
  during : ∃ before, remnant.early = run.events ++ before
  recorded : (run.performed request).events = remnant.early ++ remnant.copy.event remnant.commandBuffer :: after
  unaccepted : ∀ queue fence, ⟨.queueSubmit queue remnant.commandBuffer fence, .done⟩ ∉ after

theorem New.distinct (new : start.New) : start.session.Distinct := by
  obtain ⟨-, profile, schedule, lostSubmits, lostWaits, device, queue, depth, family, level, created⟩ := new
  exact (CommandPool.slots_of_create created).2

theorem holding_recorded {early after : List Event} {b : Handle} (empty : holding early b = [])
    (copy : RecordedCopy) (spared : ∀ event ∈ after, event.Spares b) :
    holding (early ++ copy.event b :: after) b = [copy] := by
  rw [List.append_cons, holding_append_spared spared, holding_snoc, empty]
  exact if_pos rfl

theorem Run.Strands.left {remnant : Remnant} {after : List Event} (strands : run.Strands request remnant after)
    (distinct : run.workspace.session.Distinct) (booked : run.workspace.session.machine.Booked) :
    remnant.Left (run.performed request) run.workspace.session.pool.cursor after := by
  obtain ⟨copies, ⟨f, fails⟩, ⟨before, early⟩, recorded, unaccepted⟩ := strands
  have attempt := (ends_of_error fails).1 (ends_perform_attempt distinct booked copies) f rfl
  obtain ⟨empty, rests⟩ := attempt.rests (early ▸ recorded) unaccepted
  rw [← early] at empty
  have booked' := (Run.Steps.device (.single (.perform request))).booked booked
  have waits {state : SlotState} (spared : ∀ event ∈ after, event.Spares remnant.commandBuffer)
      (holds : (run.performed request).workspace.session.Holds run.workspace.session.pool.cursor
        remnant.commandBuffer state) :
      remnant.Waits (run.performed request) run.workspace.session.pool.cursor state := by
    have had : remnant.Had .held (run.performed request).workspace.session.machine := ⟨after, recorded, .held spared⟩
    refine ⟨holds, ?_, had.executions, had⟩
    rw [booked'.work]
    exact (congrArg (holding · _) recorded).trans (holding_recorded empty remnant.copy spared)
  cases rests with
  | unended refused spared holds => exact .unended refused (waits spared holds)
  | unsubmitted mem declines spared holds => exact .unsubmitted mem declines (waits spared holds)
  | broke broke lot holds =>
    have had : remnant.Had .executed (run.performed request).workspace.session.machine := ⟨after, recorded, lot⟩
    exact .broke broke holds.slot (had.settled nofun)

/-- A copy that a failed request left behind, and of which no submission was accepted, is in the slot at which the
ring pointed: the slot is open if its recording could not be ended, and ended if there was no fence or the
submission was refused. It waits there until a request submits that slot or begins it again, which settles
whether it is executed once or never; a submission that broke down has executed it. -/
theorem stranded_follows_slot (new : start.New) (steps : Run.Steps { workspace := start } run) {remnant : Remnant}
    {after : List Event} (strands : run.Strands request remnant after) :
    let failed := run.performed request
    let index := run.workspace.session.pool.cursor
    remnant.Left failed index after ∧
      ∀ run', Run.Steps failed run' → run'.workspace.session.machine.Booked ∧
        ((∃ state, remnant.Waits failed index state) → remnant.Course failed index run') := by
  intro failed index
  have booked := steps.device.booked new.booked
  have booked' : failed.workspace.session.machine.Booked :=
    (Run.Steps.device (.single (.perform request))).booked booked
  refine ⟨strands.left (new.distinct.keeps steps.keeps) booked, fun run' later => ?_⟩
  exact ⟨later.device.booked booked', fun ⟨state, waits⟩ => waits.course booked' later⟩

/-! ## A copy that finds no fence -/

/-- Two buffers are made, of which the first starts with ones and has fresh octets after them. -/
def twoBuffers (start : Workspace) : Run :=
  [.create "a" (.hostVisible 8 3), .create "b" (.hostVisible 4 3), .write "a" 0 4 (.constant 1)].foldl
    Run.performed { workspace := start }

/-- A copy of the first octets from an offset on, which is to be waited for. -/
def copyFrom (offset : UInt64) : BufferRequest := .copy "b" "a" ⟨offset, 0, 4⟩ true

/-- The copy of the ones, as it is recorded after the two buffers were made. -/
def copyOfOnes (start : Workspace) : Remnant :=
  ⟨(twoBuffers start).events ++ [⟨.beginCommandBuffer 2 Session.simultaneousUse, .done⟩], 2, ⟨4, 6, ⟨0, 0, 4⟩⟩⟩

/-- The first copy ends its command buffer, and then finds no fence. -/
theorem strands_unfenced : let start := hosted { schedule := .losesFirst .createFence } 2
    (twoBuffers start).Strands (copyFrom 0) (copyOfOnes start)
      [⟨.endCommandBuffer 2, .done⟩, ⟨.createFence, .failed .deviceLost⟩] where
  copies := trivial
  fails := exists_eq_error (by decide +kernel)
  during := ⟨_, rfl⟩
  recorded := by decide +kernel
  unaccepted := by simp

/-- The copy that found no fence waits in the slot that was ended, until the pool is flushed after a newer copy. -/
theorem stranded_follows_slot_unfenced :
    let start := hosted { schedule := .losesFirst .createFence } 2
    let failed := (twoBuffers start).performed (copyFrom 0)
    let flushed := (failed.performed (copyFrom 4)).performed (.onPool (.flushAll true))
    start.New ∧ (copyOfOnes start).Waits failed 0 .executable ∧ (copyOfOnes start).Course failed 0 flushed := by
  intro start failed flushed
  have new : start.New := new_unfenced Nat.two_pos
  have steps : Run.Steps { workspace := start } (twoBuffers start) := Run.steps_foldl _ _
  have later : Run.Steps failed flushed := (Relation.ReflTransGen.single (.perform _)).tail (.perform _)
  have cursor : (twoBuffers start).workspace.session.pool.cursor = 0 := by decide +kernel
  obtain ⟨left, course⟩ := stranded_follows_slot new steps strands_unfenced
  rw [cursor] at left course
  have waits : (copyOfOnes start).Waits failed 0 .executable := by
    cases left with
    | unended refused => simp [copyOfOnes] at refused
    | unsubmitted mem declines waits => exact waits
    | broke broke => simp at broke
  exact ⟨new, waits, (course flushed later).2 ⟨_, waits⟩⟩

/-- A copy that failed is executed by a flush, over what a newer copy has brought. -/
theorem stranded_overwrites :
    let start := hosted { schedule := .losesFirst .createFence } 2
    let newer := ((twoBuffers start).performed (copyFrom 0)).performed (copyFrom 4)
    let flushed := newer.performed (.onPool (.flushAll true))
    start.New ∧ (∃ after, (twoBuffers start).Strands (copyFrom 0) (copyOfOnes start) after) ∧
      (copyOfOnes start).executions flushed.events = 1 ∧
      (newer.workspace.octets "b").map (·.take 4) = some (List.replicate 4 Machine.freshByte) ∧
      (flushed.workspace.octets "b").map (·.take 4) = some [1, 1, 1, 1] := by
  intro start newer flushed
  refine ⟨new_unfenced Nat.two_pos, ⟨_, strands_unfenced⟩, ?_⟩
  decide +kernel

end Workspace

end CopyBench
