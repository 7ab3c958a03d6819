import CopyBench.Proofs.Pool.Rounds
/-!
# Flushing all slots

A flush of all slots flushes them one after another and stops at the first that fails. It then says which
one that is and why. The slots before are where a flush leaves them, the one that failed still has its
work unless that was submitted, and those after are as if nothing had been asked.
-/

namespace CopyBench

open CopyBench.Action

theorem Action.bind_of_ok {σ α β : Type} {act : Action σ α} {s s' : σ} {a : α} (run : act s = .ok a s')
    (f : α → Action σ β) : (act >>= f) s = f a s' := by
  show EStateM.bind act f s = _
  unfold EStateM.bind
  rw [run]

namespace Session

variable {s s' t : Session} {wait : Bool} {index n : Nat}

/-! ## The first flush that fails -/

theorem flushFrom_of_ok (run : flush index wait s = .ok () t) (n : Nat) :
    flushFrom wait index (n + 1) s = flushFrom wait (index + 1) n t := by
  have recovered : recover (flush index wait) s = .ok (.ok ()) t := by
    rw [recover, run]
  rw [flushFrom, bind_of_ok recovered]

theorem flushFrom_of_error {e : Error} (run : flush index wait s = .error (.error e) t) (n : Nat) :
    flushFrom wait index (n + 1) s = .error (.error (.flushFailed index e)) t := by
  have recovered : recover (flush index wait) s = .ok (.error e) t := by
    rw [recover, run]
  rw [flushFrom, bind_of_ok recovered]
  rfl

/-- The slots before a flush that fails, and that flush, when slots are flushed in order. -/
structure FailsAt (s : Session) (wait : Bool) (index k : Nat) (source : Error) (t s' : Session) : Prop where
  before : flushFrom wait index k s = .ok () t
  each : ((List.range' index k).forM fun j => flush j wait) s = .ok () t
  fails : flush (index + k) wait t = .error (.error source) s'

theorem failsAt_of_flushFrom {f : Failure} (run : flushFrom wait index n s = .error f s')
    (sound : s.Sound) : ∃ k source t, k < n ∧ f = .error (.flushFailed (index + k) source) ∧
      FailsAt s wait index k source t s' := by
  induction n generalizing index s with
  | zero => cases run
  | succ n ih =>
    have ends := (ends_flush_round sound index wait).and (sound_flush sound index wait)
    rcases first : flush index wait s with ⟨⟨⟩, t⟩ | ⟨e | p, t⟩
    · rw [flushFrom_of_ok first] at run
      obtain ⟨k, source, t', hk, hf, before, each, fails⟩ := ih run ((ends_of_ok first).1 ends).2
      rw [Nat.add_right_comm, Nat.add_assoc] at hf fails
      refine ⟨k + 1, source, t', Nat.succ_lt_succ hk, hf, ?_, ?_, fails⟩
      · rw [flushFrom_of_ok first, before]
      · rw [List.range'_succ, List.forM_eq_forM, List.forM_cons, bind_of_ok first]
        exact each
    · rw [flushFrom_of_error first] at run
      cases run
      exact ⟨0, e, s, Nat.succ_pos n, rfl, rfl, rfl, first⟩
    · obtain ⟨⟨more, round⟩, -⟩ := (ends_of_error first).1 ends
      exact absurd rfl (round.calm p)

/-! ## What a failed flush leaves -/

/-- The slot of a flush that failed: it is pending if its work was submitted, now or before, and still
has that work otherwise. -/
theorem Transcript.failed {queue b : Handle} {before state : SlotState} {more : List Event} {f : Failure}
    (h : Transcript queue b wait before more (.error f) state) :
    (before = .pending ∨ b ∈ submitted more) ∧ state = .pending ∨
      before.holds = true ∧ submitted more = [] ∧ state.holds = true := by
  cases h with
  | undrained => exact .inl ⟨.inl rfl, rfl⟩
  | unended => exact .inr ⟨rfl, rfl, rfl⟩
  | ended rest | executable rest =>
    cases rest with
    | refused | unfenced => exact .inr ⟨rfl, rfl, rfl⟩
    | fenced fence rest =>
      cases rest with
      | refused => exact .inr ⟨rfl, rfl, rfl⟩
      | unconfirmed => exact .inl ⟨.inr List.mem_cons_self, rfl⟩

/-- How a flush of all slots that stopped at slot `index`, because of `source`, left the session. -/
structure Stopped (s : Session) (wait : Bool) (index : Nat) (source : Error) (s' : Session) : Prop where
  /-- The flushes of the slots before succeed one after another, and then this one fails. -/
  first : ∃ t, ((List.range index).forM fun j => flush j wait) s = .ok () t ∧
    flush index wait t = .error (.error source) s'
  before : ∀ j < index, s'.pool.slots[j]? = s.pool.slots[j]?.map (·.flushed wait)
  /-- The slot that failed is pending if its work was submitted, now or before, and still has that work
  otherwise. -/
  failed : ∃ slot state, s.pool.slots[index]? = some slot ∧
    s'.pool.slots[index]? = some { slot with state } ∧
      ((slot.state = .pending ∨ slot.commandBuffer ∈ submitted (since s s')) ∧ state = .pending ∨
        slot.state.holds = true ∧ slot.commandBuffer ∉ submitted (since s s') ∧ state.holds = true ∧
          s'.machine.work slot.commandBuffer = s.machine.work slot.commandBuffer)
  after : ∀ j > index, s'.pool.slots[j]? = s.pool.slots[j]? ∧
    ∀ slot, s.pool.slots[j]? = some slot →
      s'.machine.work slot.commandBuffer = s.machine.work slot.commandBuffer ∧
        ∀ event ∈ since s s', slot.commandBuffer ∉ event.call.commandBuffers

/-- What no call names is not submitted. -/
theorem not_submitted {more : List Event} {b : Handle}
    (h : ∀ event ∈ more, b ∉ event.call.commandBuffers) : b ∉ submitted more := by
  intro hmem
  obtain ⟨event, hevent, submits⟩ := List.mem_filterMap.1 hmem
  obtain ⟨queue, fence, rfl⟩ := Event.submits_eq_some.1 submits
  exact h _ hevent (List.mem_singleton_self b)

theorem stopped_of_failsAt {source : Error} (sound : s.Sound) (distinct : s.Distinct)
    (hlt : index < s.pool.slots.length) (h : FailsAt s wait 0 index source t s') :
    Stopped s wait index source s' := by
  obtain ⟨before, each, fails⟩ := h
  rw [Nat.zero_add] at fails
  have hslot : s.pool.slots[index]? = some s.pool.slots[index] := List.getElem?_eq_getElem hlt
  generalize s.pool.slots[index] = slot at hslot
  obtain ⟨⟨more, round⟩, soundₜ⟩ := (ends_of_ok before).1
    ((ends_flushFrom_round sound distinct wait 0 index).and (sound_flushFrom sound wait 0 index))
  have outside (j : Nat) (hj : index ≤ j) : t.pool.slots[j]? = s.pool.slots[j]? :=
    CommandPool.getElem?_of_flushed_eq round.bound (by omega)
  have hslotₜ := (outside index (Nat.le_refl _)).trans hslot
  obtain ⟨more', state, transcript, advance⟩ :=
    (ends_of_error fails).1 (ends_flush_transcript hslotₜ (soundₜ index slot hslotₜ) wait)
  have delivered : s.machine.trace.toList ++ (more ++ more') = s'.machine.trace.toList := by
    rw [advance.machine.trace, round.machine.trace, List.append_assoc]
  have other (j : Nat) (hj : j ≠ index) : s'.pool.slots[j]? = t.pool.slots[j]? := by
    rw [advance.pool, slots_setState, List.getElem?_modify]
    simp [Ne.symm hj]
  -- The first part names the command buffers of the slots before, the second that of the slot itself.
  have apart {j : Nat} {slot' : Slot} (hj : index ≤ j) (hslot' : s.pool.slots[j]? = some slot') :
      ∀ event ∈ more, slot'.commandBuffer ∉ event.call.commandBuffers := by
    intro event hmem hb
    obtain ⟨i, slot'', -, hi, hslot'', hsame⟩ := (round.delivers event hmem).2 _ hb
    have := distinct.index_eq hslot'' hslot' hsame
    omega
  have apart' {j : Nat} {slot' : Slot} (hj : index < j) (hslot' : s.pool.slots[j]? = some slot') :
      ∀ event ∈ more', slot'.commandBuffer ∉ event.call.commandBuffers := by
    intro event hmem hb
    have hsame := List.mem_singleton.1 ((transcript.delivers event hmem).2 hb)
    exact absurd (distinct.index_eq hslot' hslot hsame) (Nat.ne_of_gt hj)
  have since_eq : since s s' = more ++ more' := since_of_trace_eq delivered.symm
  have unsubmitted : slot.commandBuffer ∉ submitted more :=
    not_submitted (apart (Nat.le_refl _) hslot)
  constructor
  case first =>
    refine ⟨t, ?_, fails⟩
    rw [List.range_eq_range']
    exact each
  case before =>
    intro j hj
    rw [other j (Nat.ne_of_lt hj), round.reached rfl, CommandPool.getElem?_flushed]
    simp [hj]
  case failed =>
    refine ⟨slot, state, hslot, ?_, ?_⟩
    · rw [advance.pool]
      exact slot_setState state hslotₜ
    · rw [since_eq, submitted_append, List.mem_append]
      rcases transcript.failed with ⟨pending | new, rfl⟩ | ⟨held, silent, holds⟩
      · exact .inl ⟨.inl pending, rfl⟩
      · exact .inl ⟨.inr (.inr new), rfl⟩
      · have unsubmitted' : slot.commandBuffer ∉ submitted more' := by simp [silent]
        refine .inr ⟨held, not_or.2 ⟨unsubmitted, unsubmitted'⟩, holds, ?_⟩
        rw [advance.machine.work, if_neg unsubmitted', round.machine.work, if_neg unsubmitted]
  case after =>
    intro j hj
    refine ⟨by rw [other j (Nat.ne_of_gt hj), outside j (Nat.le_of_lt hj)], ?_⟩
    intro slot' hslot'
    have first := apart (Nat.le_of_lt hj) hslot'
    have second := apart' hj hslot'
    constructor
    · rw [advance.machine.work, if_neg (not_submitted second), round.machine.work,
        if_neg (not_submitted first)]
    · intro event hmem
      rw [since_eq] at hmem
      exact (List.mem_append.1 hmem).elim (first event) (second event)

/-! ## From the making of a pool on -/

/-- In every session that follows the making of a pool, a flush of all slots flushes each of them or stops
in good order. -/
theorem flushAll_in_order {device : Device} {queue : Handle} {depth : Nat} {family : UInt32}
    {level : Int} {m m' : Machine} {pool : CommandPool}
    (created : CommandPool.create device queue depth family level m = .ok pool m')
    (reach : Reach ⟨m', pool⟩ s) (wait : Bool) :
    (flushAll wait).Ends s fun r s' =>
      (r = .ok () ∧ (∀ j : Nat, s'.pool.slots[j]? = s.pool.slots[j]?.map (·.flushed wait)) ∧
        (wait = true → ∀ slot ∈ s'.pool.slots, slot.state = .idle)) ∨
      ∃ index source, r = .error (.error (.flushFailed index source)) ∧
        Stopped s wait index source s' := by
  obtain ⟨idle, distinct⟩ := CommandPool.slots_of_create created
  have sound := sound_of_idle (s := ⟨m', pool⟩) idle
  obtain ⟨events, path⟩ := reach.path sound
  have sound := path.sound sound
  have distinct := path.distinct distinct
  refine ((ends_flushAll_round sound distinct wait).and (ends_self ..)).mono fun r s' h => ?_
  obtain ⟨⟨more, round⟩, run⟩ := h
  rcases r with f | ⟨⟩
  · have run : flushFrom wait 0 s.pool.slots.length s = .error f s' := eq_error_of_ends run
    obtain ⟨index, source, t, hlt, hf, failsAt⟩ := failsAt_of_flushFrom run sound
    rw [Nat.zero_add] at hf
    exact .inr ⟨index, source, congrArg _ hf, stopped_of_failsAt sound distinct hlt failsAt⟩
  · have slots (j : Nat) : s'.pool.slots[j]? = s.pool.slots[j]?.map (·.flushed wait) := by
      rw [round.reached rfl, CommandPool.getElem?_flushed]
      cases hslot : s.pool.slots[j]? with
      | none => rfl
      | some slot =>
        have := (List.getElem?_eq_some_iff.1 hslot).1
        simp [this]
    refine .inl ⟨rfl, slots, ?_⟩
    rintro rfl slot hmem
    obtain ⟨j, hj⟩ := List.getElem?_of_mem hmem
    rw [slots j] at hj
    obtain ⟨slot', -, rfl⟩ := Option.map_eq_some_iff.1 hj
    exact SlotState.flushed_waiting slot'.state

/-- Both slots of a pool are open, and the second submission fails: the flush of all stops at slot 1. -/
theorem flushAll_stops_at_one :
    let m : Machine := { schedule := .ofRules [{ point := .queueSubmit, first := 2 }] }
    let start : Session := ⟨CommandPool.created m { memoryTypes := [] } 2 0 0,
      CommandPool.fresh { memoryTypes := [] } 1 2 0 1⟩
    let s := (perform .acquire).finalState ((perform .acquire).finalState start)
    CommandPool.create { memoryTypes := [] } 1 2 0 0 m = .ok start.pool start.machine ∧
      ∃ source s', flushAll true s = .error (.error (.flushFailed 1 source)) s' ∧
        Stopped s true 1 source s' := by
  intro m start s
  have created : CommandPool.create { memoryTypes := [] } 1 2 0 0 m = .ok start.pool start.machine := rfl
  -- Any session that is reached, so that the run is not unfolded here.
  have stops (s : Session) (reach : Reach start s) (fails : (flushAll true).Ends s fun r _ =>
      r = .error (.error (.flushFailed 1 (.vulkan Entrypoint.queueSubmit.symbol .deviceLost)))) :
      ∃ source s', flushAll true s = .error (.error (.flushFailed 1 source)) s' ∧
        Stopped s true 1 source s' := by
    have ends := flushAll_in_order created reach true
    refine Ends.elim (((ends.and fails).and (ends_self ..)).mono fun r s' h => ?_)
    obtain ⟨⟨⟨rfl, -⟩ | ⟨index, source, rfl, stopped⟩, hr⟩, run⟩ := h
    · cases hr
    · cases hr
      exact ⟨_, s', eq_error_of_ends run, stopped⟩
  exact ⟨created, stops s (.perform .acquire (.perform .acquire .start)) (by decide +kernel)⟩

end Session

end CopyBench
