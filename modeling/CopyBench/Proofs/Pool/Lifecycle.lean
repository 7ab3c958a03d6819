import CopyBench.Proofs.Pool.Creation
import CopyBench.Proofs.Pool.Walk
/-!
# Slots keep step with their command buffers

Whatever is asked of a pool and whichever calls fail, no call comes at a wrong time for its command
buffer, and the state of a slot tells where the device sees the command buffer of the slot.
-/

namespace CopyBench.Session

open CopyBench.Action

variable {start s : Session} {events : List Event}

/-- What a slot says of its command buffer is what the events say. -/
structure InStep (events : List Event) (slot : Slot) : Prop where
  recording : slot.state = .recording ↔ phase events slot.commandBuffer = .recording
  executable : slot.state = .executable ↔ phase events slot.commandBuffer = .executable
  pending : (phase events slot.commandBuffer).busy → slot.state = .pending

/-- A slot stays in step when its command buffer stays where it is or comes to rest from flight. -/
theorem InStep.next {slot : Slot} {event : Event} (h : InStep events slot)
    (other : ¬event.call.Moves slot.commandBuffer) : InStep (events ++ [event]) slot := by
  obtain ⟨recording, executable, pending⟩ := h
  obtain heq | ⟨busy, heq⟩ := Phase.step_of_other other (phase events slot.commandBuffer)
  · constructor <;> rwa [phase_snoc, heq]
  · have hstate := pending busy
    constructor <;> simp [heq, hstate, Phase.busy]

/-- An idle slot has its command buffer at rest. -/
theorem InStep.rest {slot : Slot} (h : InStep events slot) (idle : slot.state = .idle) :
    phase events slot.commandBuffer = .rest := by
  cases hphase : phase events slot.commandBuffer with
  | rest => rfl
  | recording => exact absurd (h.recording.2 hphase) (by simp [idle])
  | executable => exact absurd (h.executable.2 hphase) (by simp [idle])
  | inFlight queue fence => exact absurd (h.pending (by rw [hphase]; rfl)) (by simp [idle])

/-- The slots of a session have different command buffers. -/
def Distinct (s : Session) : Prop := (s.pool.slots.map (·.commandBuffer)).Nodup

theorem Distinct.index_eq (distinct : s.Distinct) {i j : Nat} {slot slot' : Slot}
    (hi : s.pool.slots[i]? = some slot) (hj : s.pool.slots[j]? = some slot')
    (h : slot.commandBuffer = slot'.commandBuffer) : i = j := by
  have hlt : i < (s.pool.slots.map (·.commandBuffer)).length := by
    rw [List.length_map]
    exact (List.getElem?_eq_some_iff.1 hi).1
  exact (List.getElem?_inj hlt distinct).1 (by simp [List.getElem?_map, hi, hj, h])

theorem Path.distinct (path : Path start events s) (h : start.Distinct) : s.Distinct := by
  rw [Distinct, path.pool_eq.2.2.2]
  exact h

/-- Every slot is in step with its command buffer. -/
def AllInStep (events : List Event) (s : Session) : Prop :=
  ∀ (index : Nat) (slot : Slot), s.pool.slots[index]? = some slot → InStep events slot

/-- An event about the command buffer of one slot leaves the other slots in step. -/
theorem AllInStep.update {index : Nat} {slot : Slot} {event : Event} {state : SlotState} {m : Machine}
    (h : AllInStep events s) (distinct : s.Distinct) (hslot : s.pool.slots[index]? = some slot)
    (own : ∀ b, event.call.Moves b → b = slot.commandBuffer)
    (now : InStep (events ++ [event]) { slot with state := state }) :
    AllInStep (events ++ [event]) { machine := m, pool := s.pool.setState index state } := by
  intro j slot' hslot'
  obtain ⟨-, rfl⟩ | ⟨hj, hslot'⟩ := slot_setState_cases hslot hslot'
  · exact now
  · refine (h j slot' hslot').next fun moves => hj ?_
    exact distinct.index_eq hslot' hslot (own _ moves)

theorem AllInStep.lawful_of_asks {call : Call} (h : AllInStep events s) (asks : s.Asks events call) :
    call.Lawful (phase events) := by
  cases call with
  | beginCommandBuffer b flags =>
    obtain ⟨slot, hmem, rfl, notOpen, settled⟩ := asks
    obtain ⟨index, hslot⟩ := List.getElem?_of_mem hmem
    refine ⟨fun hphase => notOpen ((h index slot hslot).recording.2 hphase), ?_⟩
    cases hbusy : (phase events slot.commandBuffer).busy with
    | false => rfl
    | true => exact absurd (settled ((h index slot hslot).pending hbusy)) (by simp [hbusy])
  | endCommandBuffer b =>
    obtain ⟨slot, hmem, rfl, isOpen⟩ := asks
    obtain ⟨index, hslot⟩ := List.getElem?_of_mem hmem
    exact (h index slot hslot).recording.1 isOpen
  | queueSubmit queue b fence =>
    obtain ⟨slot, hmem, rfl, ready⟩ := asks
    obtain ⟨index, hslot⟩ := List.getElem?_of_mem hmem
    exact (h index slot hslot).executable.1 ready
  | copyBuffer b source destination region => exact asks.elim
  | _ => trivial

/-- Along a path every call comes at the right time and every slot stays in step. -/
theorem Path.inStep (path : Path start events s) (distinct : start.Distinct)
    (idle : ∀ slot ∈ start.pool.slots, slot.state = .idle) :
    Lawful events ∧ AllInStep events s := by
  induction path with
  | start =>
    refine ⟨.nil, fun index slot hslot => ?_⟩
    have hstate := idle slot (List.mem_of_getElem? hslot)
    constructor <;> simp [hstate, Phase.busy]
  | told note path ih => exact ih
  | turned cursor autoFlushes path ih => exact ih
  | refused point call code path asks ih | lost point call code path asks ih =>
    refine ⟨ih.1.snoc (ih.2.lawful_of_asks asks), fun index slot hslot => ?_⟩
    obtain ⟨recording, executable, pending⟩ := ih.2 index slot hslot
    constructor <;> rwa [phase_snoc, Phase.step_failed]
  | drained path ih | fenced path ih | waited fence timeout path ih | unfenced fence path ih =>
    exact ⟨ih.1.snoc trivial, fun index slot hslot => (ih.2 index slot hslot).next id⟩
  | queued copy path hslot isOpen sound ih =>
    exact ⟨ih.1.snoc ((ih.2 _ _ hslot).recording.1 isOpen),
      fun index slot hslot => (ih.2 index slot hslot).next id⟩
  | begun flags path hslot may ih =>
    have asks : Asks _ _ (.beginCommandBuffer _ flags) :=
      ⟨_, List.mem_of_getElem? hslot, rfl, may⟩
    refine ⟨ih.1.snoc (ih.2.lawful_of_asks asks), ih.2.update (path.distinct distinct) hslot ?_ ?_⟩
    · exact fun b h => h.symm
    · constructor <;> simp [Phase.step, Phase.busy]
  | ended path hslot isOpen ih =>
    refine ⟨ih.1.snoc ((ih.2 _ _ hslot).recording.1 isOpen),
      ih.2.update (path.distinct distinct) hslot ?_ ?_⟩
    · exact fun b h => h.symm
    · constructor <;> simp [Phase.step, Phase.busy]
  | submitted path hslot ready run ih =>
    refine ⟨ih.1.snoc ((ih.2 _ _ hslot).executable.1 ready),
      ih.2.update (path.distinct distinct) hslot ?_ ?_⟩
    · exact fun b h => h.symm
    · constructor <;> simp [Phase.step, Phase.busy]
  | settled path hslot pending complete ih =>
    refine ⟨ih.1, fun j slot' hslot' => ?_⟩
    obtain ⟨-, rfl⟩ | ⟨-, hslot'⟩ := slot_setState_cases hslot hslot'
    · obtain ⟨recording, executable, -⟩ := ih.2 _ _ hslot
      constructor
      · simpa [pending] using recording
      · simpa [pending] using executable
      · simp [complete]
    · exact ih.2 j slot' hslot'

/-! ## From the making of a pool on -/

/-- The events in a session since an earlier one. -/
def since (start s : Session) : List Event := s.machine.trace.toList.drop start.machine.trace.size

theorem Path.since_eq (path : Path start events s) : since start s = events := by
  rw [since, path.trace_eq, ← Array.length_toList, List.drop_left]

/-- Whether a request waits, when it succeeds, for all the work of slot `index`. -/
def Awaits (s : Session) (index : Nat) : PoolOperation → Prop
  | .flush i wait => i = index ∧ wait = true
  | .flushAll wait => index < s.pool.slots.length ∧ wait = true
  | .close i ending => i = index ∧ ending = .finish
  | _ => False

theorem idle_of_awaits (path : Path start events s) (sound : start.Sound) {operation : PoolOperation}
    {index : Nat} (awaits : s.Awaits index operation) :
    (perform operation).Ends s fun r s' => (∃ reply, r = .ok reply) →
      ∃ slot, s'.pool.slots[index]? = some slot ∧ slot.state = .idle := by
  have of_flush (i : Nat) (wait : Bool) (h : i = index ∧ wait = true) :
      Ends (flush i wait >>= fun _ => pure .done) s fun (r : Except Failure PoolReply) s' =>
        (∃ reply, r = .ok reply) → ∃ slot, s'.pool.slots[index]? = some slot ∧ slot.state = .idle := by
    obtain ⟨rfl, rfl⟩ := h
    rw [ends_bind]
    refine (walk_flush path sound i true).mono fun r s' h => ?_
    rcases r with e | ⟨⟩
    · rintro ⟨reply, hreply⟩
      cases hreply
    · exact fun _ => h.2 rfl rfl
  cases operation with
  | flush i wait => exact of_flush i wait awaits
  | close i ending =>
    obtain ⟨rfl, rfl⟩ := awaits
    exact of_flush i true ⟨rfl, rfl⟩
  | flushAll wait =>
    obtain ⟨hlt, rfl⟩ := awaits
    rw [perform, ends_bind]
    refine (walk_flushAll path sound true).mono fun r s' h => ?_
    rcases r with e | ⟨⟩
    · rintro ⟨reply, hreply⟩
      cases hreply
    · exact fun _ => h.2 rfl rfl index hlt
  | _ => exact awaits.elim

/-- What a pool promises about its command buffers, however it came to be in a session. -/
structure Disciplined (start s : Session) : Prop where
  /-- A command buffer is begun only when it is neither recording nor in flight, ended only when it is
  recording, and submitted only when it is executable. -/
  lawful : Lawful (since start s)
  recording : ∀ slot ∈ s.pool.slots,
    slot.state = .recording ↔ phase (since start s) slot.commandBuffer = .recording
  executable : ∀ slot ∈ s.pool.slots,
    slot.state = .executable ↔ phase (since start s) slot.commandBuffer = .executable
  pending : ∀ slot ∈ s.pool.slots,
    (phase (since start s) slot.commandBuffer).busy → slot.state = .pending
  /-- After a waiting flush that succeeded the work of its slots is complete. -/
  complete : ∀ operation reply s', perform operation s = .ok reply s' →
    ∀ index, s.Awaits index operation →
      ∃ slot, s'.pool.slots[index]? = some slot ∧ phase (since start s') slot.commandBuffer = .rest
  /-- A pool with a command buffer in flight waits for its queue before it goes. -/
  drains : (∃ slot ∈ s.pool.slots, (phase (since start s) slot.commandBuffer).busy) →
    ∃ reply, (s.pool.release.finalState s.machine).trace.toList =
      s.machine.trace.toList ++ ⟨.queueWaitIdle s.pool.queue, reply⟩ :: s.pool.farewell

theorem sound_of_idle (idle : ∀ slot ∈ s.pool.slots, slot.state = .idle) : s.Sound := by
  intro index slot hslot hstate
  rw [idle slot (List.mem_of_getElem? hslot)] at hstate
  simp at hstate

/-- Every session that follows the making of a pool keeps the pool's promises. -/
theorem disciplined_of_reach {device : Device} {queue : Handle} {depth : Nat} {family : UInt32}
    {level : Int} {m m' : Machine} {pool : CommandPool}
    (created : CommandPool.create device queue depth family level m = .ok pool m')
    (reach : Reach ⟨m', pool⟩ s) : Disciplined ⟨m', pool⟩ s := by
  obtain ⟨idle, distinct⟩ := CommandPool.slots_of_create created
  have sound := sound_of_idle (s := ⟨m', pool⟩) idle
  obtain ⟨events, path⟩ := reach.path sound
  obtain ⟨lawful, inStep⟩ := path.inStep distinct idle
  have each (slot) (hmem : slot ∈ s.pool.slots) : InStep (since ⟨m', pool⟩ s) slot := by
    obtain ⟨index, hslot⟩ := List.getElem?_of_mem hmem
    exact path.since_eq ▸ inStep index slot hslot
  refine ⟨path.since_eq ▸ lawful, fun slot h => (each slot h).recording,
    fun slot h => (each slot h).executable, fun slot h => (each slot h).pending, ?_, ?_⟩
  · intro operation reply s' run index awaits
    obtain ⟨slot, hslot, hidle⟩ := (ends_of_ok run).1 (idle_of_awaits path sound awaits) ⟨reply, rfl⟩
    obtain ⟨-, more, path⟩ := (ends_of_ok run).1 (path_perform path sound operation)
    exact ⟨slot, hslot, path.since_eq ▸ ((path.inStep distinct idle).2 index slot hslot).rest hidle⟩
  · rintro ⟨slot, hmem, busy⟩
    have hpending : s.pool.hasPending = true :=
      List.any_eq_true.2 ⟨slot, hmem, decide_eq_true ((each slot hmem).pending busy)⟩
    have h := ends_finalState.1 (CommandPool.ends_release s.pool s.machine)
    rw [if_pos hpending, List.append_assoc] at h
    exact ⟨_, h⟩

/-- Of the pool of three command buffers that an empty machine makes, one is acquired and flushed. -/
theorem disciplined_after_flush :
    let start : Session := ⟨CommandPool.created {} { memoryTypes := [] } 3 0 0,
      CommandPool.fresh { memoryTypes := [] } 1 3 0 1⟩
    CommandPool.create { memoryTypes := [] } 1 3 0 0 {} = .ok start.pool start.machine ∧
      Disciplined start
        ((perform (.flush 0 true)).finalState ((perform .acquire).finalState start)) :=
  have created : CommandPool.create { memoryTypes := [] } 1 3 0 0 {} = .ok _ _ := rfl
  ⟨created, disciplined_of_reach created
    (.perform (.flush 0 true) (.perform .acquire .start))⟩

end CopyBench.Session
