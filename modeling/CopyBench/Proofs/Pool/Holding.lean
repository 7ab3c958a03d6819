import CopyBench.Proofs.Buffer.Booking
import CopyBench.Proofs.Pool.Failures
import CopyBench.Proofs.Pool.Lifecycle
import CopyBench.Proofs.Pool.Tending
import CopyBench.Proofs.Pool.Transcript
/-!
# Slots that hold copies

A slot that is open or ended holds the copies that were recorded into it. It goes on holding them until the pool
submits the slot or begins it again. Which operation does that depends on the operation, on the state of the
slot and on where the ring stands, and on nothing else: every operation that is bound to submit the slot hands
its copies over, every one that is bound to begin it again drops them, and any other leaves them where they
are. Only an operation that fails may leave the copies where they are against its purpose.
-/

namespace CopyBench

open CopyBench.Action

/-- What an operation has in store for the copies of slot `index`, while the ring stands at `cursor`. -/
def PoolOperation.fate (index cursor : Nat) (slotState : SlotState) : PoolOperation → Fate
  | begin i _ => if i = index ∧ slotState = .executable then .discarded else .held
  | flush i _ | close i .submit | close i .finish => if i = index then .executed else .held
  | flushAll _ => .executed
  | acquire =>
    if cursor = index then
      if slotState = .recording then .executed else .discarded
    else .held
  | finishRecording _ | close _ .keep | commandBuffer _ | state _ => .held

theorem PoolOperation.fate_acquire (index cursor : Nat) (slotState : SlotState) :
    acquire.fate index cursor slotState =
      if cursor = index then if slotState = .recording then .executed else .discarded else .held := rfl

namespace Session

variable {α : Type} {s s₁ s' : Session} {index : Nat} {b : Handle} {slot : Slot}

/-! ## What becomes of the copies in a slot -/

/-- Slot `index` is open or ended, and no other slot has its command buffer. -/
structure Holds (s : Session) (index : Nat) (b : Handle) (state : SlotState) : Prop where
  slot : s.pool.slots[index]? = some ⟨b, state⟩
  holds : state.holds = true
  distinct : s.Distinct

/-- From one session to a later one, the copies in slot `index` had a fate. As long as they are held, the slot
holds them, and is not opened if it was ended. -/
structure Fares (s : Session) (index : Nat) (b : Handle) (fate : Fate) (s' : Session) : Prop where
  lot : ∃ more, s'.machine.trace.toList = s.machine.trace.toList ++ more ∧ Lot b fate more
  holds : fate = .held → ∃ state, s'.Holds index b state
  ended : fate = .held → s.pool.slots[index]? = some ⟨b, .executable⟩ → s'.pool.slots[index]? = some ⟨b, .executable⟩

/-- How an operation ends that has a fate in store for the copies in slot `index`: they have it, or it fails
and they are held. -/
inductive Meets (s : Session) (index : Nat) (b : Handle) (fate : Fate) : Except Failure α → Session → Prop where
  | met {s' : Session} (fares : s.Fares index b fate s') (r : Except Failure α) : Meets s index b fate r s'
  | kept {s' : Session} (fares : s.Fares index b .held s') (f : Failure) : Meets s index b fate (.error f) s'

section Fares

variable {s₀ s₂ : Session} {state : SlotState} {fate : Fate} {j : Nat} {β : Type}

/-- Only the slots of the pool matter. -/
theorem Holds.frame (h : s.Holds index b state) (slots : s₁.pool.slots = s.pool.slots) :
    s₁.Holds index b state := by
  obtain ⟨slot, holds, distinct⟩ := h
  refine ⟨by rw [slots, slot], holds, ?_⟩
  rw [Distinct, slots]
  exact distinct

theorem Distinct.keeps (h : s.Distinct) (keeps : s.pool.Keeps s₁.pool) : s₁.Distinct := by
  rw [Distinct, keeps.commandBuffers]
  exact h

theorem Holds.keeps (h : s.Holds index b state) (keeps : s.pool.Keeps s₁.pool) {state' : SlotState}
    (slot : s₁.pool.slots[index]? = some ⟨b, state'⟩) (holds : state'.holds = true) :
    s₁.Holds index b state' :=
  ⟨slot, holds, h.distinct.keeps keeps⟩

theorem fares_spared (adds : s.machine.Adds (·.Spares b) s₁.machine) (holds : s₁.Holds index b state)
    (ended : s.pool.slots[index]? = some ⟨b, .executable⟩ → s₁.pool.slots[index]? = some ⟨b, .executable⟩) :
    s.Fares index b .held s₁ := by
  obtain ⟨more, trace, spared⟩ := adds
  exact ⟨⟨more, trace, .held spared⟩, fun _ => ⟨state, holds⟩, fun _ => ended⟩

/-- Nothing was done to the slots. -/
theorem Holds.quiet (h : s.Holds index b state) (adds : s.machine.Adds (·.Spares b) s₁.machine)
    (slots : s₁.pool.slots = s.pool.slots) : s.Fares index b .held s₁ :=
  fares_spared adds (h.frame slots) fun ended => by rwa [slots]

theorem Fares.refl (holds : s.Holds index b state) : s.Fares index b .held s :=
  holds.quiet (.refl _) rfl

theorem fares_decided {more : List Event} (trace : s₁.machine.trace.toList = s.machine.trace.toList ++ more)
    (lot : Lot b fate more) (decided : fate ≠ .held) : s.Fares index b fate s₁ :=
  ⟨⟨more, trace, lot⟩, (absurd · decided), (absurd · decided)⟩

theorem Fares.trans (h : s.Fares index b .held s₁) (h' : s₁.Fares index b fate s₂) : s.Fares index b fate s₂ := by
  obtain ⟨⟨more, trace, lot⟩, -, ended⟩ := h
  obtain ⟨⟨more', trace', lot'⟩, holds, ended'⟩ := h'
  cases lot with
  | held spared =>
    refine ⟨⟨more ++ more', ?_, lot'.after_spared spared⟩, holds, fun held slot => ended' held (ended rfl slot)⟩
    rw [trace', trace, List.append_assoc]

/-- Copies that are held are still held when nothing was done to the slots. -/
theorem Fares.quiet (fares : s.Fares index b .held s₁) (adds : s₁.machine.Adds (·.Spares b) s₂.machine)
    (slots : s₂.pool.slots = s₁.pool.slots) : s.Fares index b .held s₂ := by
  obtain ⟨state, holds⟩ := fares.holds rfl
  exact fares.trans (holds.quiet adds slots)

/-- What has been decided stays so. -/
theorem Fares.onward (h : s.Fares index b fate s₁) (decided : fate ≠ .held)
    (steps : Machine.DeviceSteps s₁.machine s₂.machine) : s.Fares index b fate s₂ := by
  obtain ⟨more, trace, lot⟩ := h.lot
  obtain ⟨more', trace'⟩ := steps.grown
  exact fares_decided (by rw [trace', trace, List.append_assoc]) (lot.append decided more') decided

theorem Meets.after {r : Except Failure α} (fares : s.Fares index b .held s₁) (h : s₁.Meets index b fate r s₂) :
    s.Meets index b fate r s₂ := by
  cases h with
  | met fares' r => exact .met (fares.trans fares') r
  | kept fares' f => exact .kept (fares.trans fares') f

/-- What is made of the value changes nothing. -/
theorem ends_meets_map {act : Action Session α} (f : α → β) (h : act.Ends s (s.Meets index b fate)) :
    Ends (act >>= fun a => pure (f a)) s (s.Meets index b fate) := by
  rw [ends_bind]
  refine h.mono fun r s₁ h => ?_
  cases h with
  | met fares r => cases r <;> exact .met fares _
  | kept fares f => exact .kept fares f

/-! ## Other slots -/

/-- Calls for one slot leave the others and what they hold alone. -/
theorem Holds.aside (h : s.Holds index b state) (other : j ≠ index) (tends : s.Tends j s₁)
    (same : s₁.pool.slots[index]? = s.pool.slots[index]?) (keeps : s.pool.Keeps s₁.pool) :
    s.Fares index b .held s₁ := by
  refine fares_spared (Machine.Adds.mono tends ?_) (h.keeps keeps (same.trans h.slot) h.holds) same.trans
  rintro event ⟨slot, hslot, tends⟩
  exact tends.spares fun heq => other (h.distinct.index_eq hslot h.slot heq)

theorem maintains_flush_aside (other : j ≠ index) (wait : Bool) :
    Maintains (s₀.Fares index b .held) (flush j wait) := fun s fares => by
  obtain ⟨state, holds⟩ := fares.holds rfl
  refine ((ends_flush_tends j wait s).and ((spares_flush other.symm wait s).and
    (rings_flush j wait s (.refl _)))).mono fun _ _ h => ?_
  exact fares.trans (holds.aside other h.1 h.2.1 h.2.2)

theorem maintains_begin_aside (other : j ≠ index) (flags : UInt32) :
    Maintains (s₀.Fares index b .held) (begin j flags) := fun s fares => by
  obtain ⟨state, holds⟩ := fares.holds rfl
  refine ((ends_begin_tends j flags s).and ((spares_begin other.symm flags s).and
    (stays_begin s.pool.stable_keeps j flags s (.refl _)))).mono fun _ _ h => ?_
  exact fares.trans (holds.aside other h.1 h.2.1 h.2.2)

/-- An acquire of another slot leaves the copies where they are. -/
theorem ends_acquire_aside (holds : s.Holds index b state) (other : s.pool.cursor ≠ index) :
    acquire.Ends s fun _ s' => s.Fares index b .held s' := by
  have turned : s.Fares index b .held { s with pool := turned s.pool } := holds.quiet (.refl _) rfl
  rw [ends_acquire]
  refine (maintains_begin_aside other simultaneousUse _ turned).mono fun r s₁ fares => ?_
  split
  · exact fares
  · rw [ends_reopen]
    have told (note : Note) : s.Fares index b .held (Console.tell note s₁) := fares.quiet (.refl _) rfl
    refine (maintains_flush_aside other true _ (told _)).mono fun r s₂ fares => ?_
    cases r with
    | error f => exact fares
    | ok _ =>
      have counted : s.Fares index b .held
          { s₂ with pool := { s₂.pool with autoFlushes := s₂.pool.autoFlushes + 1 } } :=
        fares.quiet (.refl _) rfl
      refine (maintains_begin_aside other simultaneousUse _ counted).mono fun r s₃ fares => ?_
      cases r <;> exact fares
  · exact fares

/-! ## The slot itself -/

/-- Ending a recording submits nothing, whichever slot it is in. -/
theorem maintains_finishRecording_held (j : Nat) : Maintains (s₀.Fares index b .held) (finishRecording j) :=
    fun s fares => by
  obtain ⟨state, holds⟩ := fares.holds rfl
  rw [ends_finishRecording]
  cases hslot : s.pool.slots[j]? with
  | none => exact fares
  | some slot =>
    dsimp only
    split
    case isFalse => exact fares
    case isTrue opened =>
      cases s.machine.fault .endCommandBuffer with
      | some code => exact fares.quiet (Machine.adds_event rfl (spares_of_inert trivial)) rfl
      | none =>
        have spared : s.machine.Adds (·.Spares b) (s.machine.ended slot.commandBuffer) :=
          Machine.adds_event rfl (spares_of_inert trivial)
        have keeps := s.pool.keeps_setState j .executable
        by_cases same : j = index
        · subst same
          have slot := slot_setState .executable holds.slot
          exact fares.trans (fares_spared spared (holds.keeps keeps slot rfl) fun _ => slot)
        · have slot : (s.pool.setState j .executable).slots[index]? = s.pool.slots[index]? :=
            Spares.setState (Ne.symm same) .executable s
          exact fares.trans (fares_spared spared (holds.keeps keeps (slot.trans holds.slot) holds.holds) slot.trans)

theorem ends_submission_meets (holds : s.Holds index b state) (wait : Bool) :
    Ends (if wait then submitAndWait index b else submit index b) s (s.Meets index b .executed) := by
  refine (ends_submission_sent index b wait s).mono fun r s' h => ?_
  obtain ⟨more, trace, -, executed | ⟨held, -⟩, declined⟩ := h
  · exact .met (fares_decided trace executed nofun) r
  · -- None of the calls was a submission that is accepted.
    cases held with
    | held spared =>
      obtain ⟨pool, f, rfl⟩ := declined fun queue fence mem =>
        (spared _ mem).not_handsOver ⟨queue, fence, rfl, .inl rfl⟩
      exact .kept (holds.quiet ⟨more, trace, spared⟩ (congrArg _ pool)) f

/-- A flush hands over what its slot holds, or fails. -/
theorem ends_flush_meets (holds : s.Holds index b state) (wait : Bool) :
    (flush index wait).Ends s (s.Meets index b .executed) := by
  rw [ends_flush, holds.slot]
  have waits := holds.holds
  cases state with
  | idle | pending => cases waits
  | executable => exact ends_submission_meets holds wait
  | recording =>
    refine (maintains_finishRecording_held index s (.refl holds)).mono fun r s₁ fares => ?_
    obtain ⟨state, holds⟩ := fares.holds rfl
    cases r with
    | error f => exact .kept fares f
    | ok _ => exact (ends_submission_meets holds wait).mono fun _ _ h => h.after fares

/-- A begin of a slot that was ended drops what it holds, or fails. -/
theorem ends_begin_meets (holds : s.Holds index b .executable) (flags : UInt32) :
    (begin index flags).Ends s (s.Meets index b .discarded) := by
  rw [ends_begin, holds.slot]
  dsimp only
  rw [ends_startRecording]
  cases s.machine.fault .beginCommandBuffer with
  | some code =>
    let m := s.machine.refuse .beginCommandBuffer (.beginCommandBuffer b flags) code
    have fares : s.Fares index b .held { s with machine := m } :=
      holds.quiet (Machine.adds_event rfl ((plain_failed _ code).keeps b)) rfl
    exact .kept fares _
  | none =>
    have begun : Lot b .discarded ([] ++ [⟨.beginCommandBuffer b flags, .done⟩]) :=
      .discarded (List.forall_mem_nil _) ⟨flags, rfl⟩ []
    exact .met (fares_decided (by rw [Machine.trace_began, Array.toList_push]; rfl) begun nofun) _

theorem ends_flushFrom_meets (wait : Bool) (n : Nat) : ∀ {s : Session} {state : SlotState} (i : Nat),
    s.Holds index b state → i ≤ index → index < i + n → (flushFrom wait i n).Ends s (s.Meets index b .executed) := by
  induction n with
  | zero => exact fun i _ first last => absurd last (Nat.not_lt.2 first)
  | succ n ih =>
    intro s state i holds first last
    rw [ends_flushFrom_succ]
    by_cases here : i = index
    · subst here
      refine (ends_flush_meets holds wait).mono fun r s₁ h => ?_
      cases h with
      | kept fares f => cases f <;> exact .kept fares _
      | met fares r =>
        rcases r with (e | p) | _
        · exact .met fares _
        · exact .met fares _
        · refine (maintains_flushFrom wait n (i + 1) s₁ .refl).mono fun r s₂ steps => ?_
          exact .met (fares.onward (by decide) (Machine.Steps.device steps)) r
    · refine (maintains_flush_aside here wait s (.refl holds)).mono fun r s₁ fares => ?_
      rcases r with (e | p) | _
      · exact .kept fares _
      · exact .kept fares _
      · obtain ⟨state, holds⟩ := fares.holds rfl
        exact (ih (i + 1) holds (by omega) (by omega)).mono fun _ _ h => h.after fares

theorem ends_flushAll_meets (holds : s.Holds index b state) (wait : Bool) :
    (flushAll wait).Ends s (s.Meets index b .executed) := by
  have inside := (List.getElem?_eq_some_iff.1 holds.slot).1
  rw [flushAll, ends_bind, ends_getPool]
  exact ends_flushFrom_meets wait _ 0 holds (Nat.zero_le _) (by rwa [Nat.zero_add])

/-- An acquire of the slot drops what it holds if the slot was ended, and first hands it over if it is open. -/
theorem ends_acquire_meets (holds : s.Holds index b state) (here : s.pool.cursor = index) :
    acquire.Ends s (s.Meets index b (if state = .recording then .executed else .discarded)) := by
  let s' : Session := { s with pool := turned s.pool }
  have turned : s'.Holds index b state := holds.frame rfl
  rw [ends_acquire, here]
  rcases SlotState.holds_iff.1 holds.holds with rfl | rfl
  · rw [if_pos rfl]
    refine (ends_begin_open turned.slot rfl simultaneousUse _).2 ?_
    dsimp only
    rw [ends_reopen]
    have told (note : Note) : (Console.tell note s').Holds index b .recording := turned.frame rfl
    have turns (note : Note) : s.Fares index b .held (Console.tell note s') := holds.quiet (.refl _) rfl
    refine (ends_flush_meets (told _) true).mono fun r s₁ h => ?_
    cases h.after (turns _) with
    | kept fares f => exact .kept fares f
    | met fares r =>
      cases r with
      | error f => exact .met fares _
      | ok _ =>
        refine (ends_begin_steps index simultaneousUse .refl).mono fun r s₂ h => ?_
        have fares : s.Fares index b .executed s₂ := fares.onward nofun (Machine.Steps.device h.1)
        cases r <;> exact .met fares _
  · rw [if_neg (by decide)]
    have turns : s.Fares index b .held s' := holds.quiet (.refl _) rfl
    refine ((ends_begin_meets turned simultaneousUse).and
      (ends_begin_operational turned.slot nofun simultaneousUse)).mono fun r s₁ h => ?_
    obtain ⟨h, operational⟩ := h
    cases h.after turns with
    | kept fares f =>
      split
      case h_1 heq => cases heq
      case h_2 heq =>
        cases heq
        cases operational _ rfl
      case h_3 => exact .kept fares _
    | met fares r =>
      split
      case h_1 => exact .met fares _
      case h_2 => cases operational _ rfl
      case h_3 => exact .met fares _

/-! ## Every operation -/

theorem ends_maintained (holds : s.Holds index b state) {act : Action Session α}
    (maintains : Maintains (s.Fares index b .held) act) : act.Ends s (s.Meets index b .held) :=
  (maintains s (.refl holds)).mono fun r _ fares => .met fares r

theorem ends_begin_fate (holds : s.Holds index b state) (j : Nat) (flags : UInt32) : (begin j flags).Ends s
    (s.Meets index b (if j = index ∧ state = .executable then .discarded else .held)) := by
  by_cases here : j = index
  · subst here
    rcases SlotState.holds_iff.1 holds.holds with rfl | rfl
    · rw [if_neg fun h => nomatch h.2]
      exact (ends_begin_open holds.slot rfl flags _).2 (.met (.refl holds) _)
    · rw [if_pos ⟨rfl, rfl⟩]
      exact ends_begin_meets holds flags
  · rw [if_neg fun h => here h.1]
    exact ends_maintained holds (maintains_begin_aside here flags)

theorem ends_flush_fate (holds : s.Holds index b state) (j : Nat) (wait : Bool) :
    (flush j wait).Ends s (s.Meets index b (if j = index then .executed else .held)) := by
  by_cases here : j = index
  · subst here
    rw [if_pos rfl]
    exact ends_flush_meets holds wait
  · rw [if_neg here]
    exact ends_maintained holds (maintains_flush_aside here wait)

/-- An acquire concerns the slot that the ring points at. -/
theorem ends_acquire_fate (holds : s.Holds index b state) :
    acquire.Ends s (s.Meets index b (PoolOperation.acquire.fate index s.pool.cursor state)) := by
  rw [PoolOperation.fate_acquire]
  split
  case isTrue here => exact ends_acquire_meets holds here
  case isFalse other => exact (ends_acquire_aside holds other).mono fun r _ fares => .met fares r

/-- Every operation either does with the copies of a slot what it has in store for them, or it fails and leaves
them where they are. -/
theorem ends_perform_meets (holds : s.Holds index b state) (operation : PoolOperation) :
    (perform operation).Ends s (s.Meets index b (operation.fate index s.pool.cursor state)) := by
  cases operation with
  | begin j flags => exact ends_meets_map _ (ends_begin_fate holds j flags)
  | finishRecording j => exact ends_meets_map _ (ends_maintained holds (maintains_finishRecording_held j))
  | flush j wait => exact ends_meets_map _ (ends_flush_fate holds j wait)
  | flushAll wait => exact ends_meets_map _ (ends_flushAll_meets holds wait)
  | acquire =>
    exact ends_meets_map (fun a : Nat × Handle => PoolReply.acquired a.1 a.2) (ends_acquire_fate holds)
  | close j ending =>
    refine ends_meets_map _ ?_
    cases ending with
    | keep => exact ends_maintained holds (maintains_finishRecording_held j)
    | submit => exact ends_flush_fate holds j false
    | finish => exact ends_flush_fate holds j true
  | commandBuffer j | state j =>
    refine ends_meets_map _ ?_
    rw [ends_slot]
    cases s.pool.slots[j]? <;> exact .met (.refl holds) _

end Fares

end Session

end CopyBench
