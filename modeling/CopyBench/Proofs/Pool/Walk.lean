import CopyBench.Proofs.Pool.Path
/-!
# Operations follow paths

Every operation on a pool extends a path of its session and never panics. Only a begin that succeeds,
on its own or inside an acquire, adds a successful begin to the events, and it comes last.
-/

namespace CopyBench.Session

open CopyBench.Action

variable {α β : Type} {start s : Session} {events : List Event}

/-- No command buffer is begun with success. -/
def Quiet (events : List Event) : Prop := ∀ b flags, ⟨.beginCommandBuffer b flags, .done⟩ ∉ events

theorem Quiet.append {more more' : List Event} (h : Quiet more) (h' : Quiet more') :
    Quiet (more ++ more') := fun b flags hmem =>
  (List.mem_append.1 hmem).elim (h b flags) (h' b flags)

/-- An outcome without a panic, in a session that calls other than successful begins lead on to. -/
structure Walk (start : Session) (events : List Event) (r : Except Failure α) (s : Session) :
    Prop where
  calm : ∀ p, r ≠ .error (.panic p)
  onward : ∃ more, Path start (events ++ more) s ∧ Quiet more

theorem Walk.ok (a : α) (path : Path start events s) : Walk start events (.ok a) s :=
  ⟨nofun, [], by simpa using path, nofun⟩

theorem Walk.error (e : Error) (path : Path start events s) :
    @Walk α start events (.error (.error e)) s :=
  ⟨nofun, [], by simpa using path, nofun⟩

/-- A walk that goes on from later events is one from the earlier ones. -/
theorem Walk.append {r : Except Failure α} {more : List Event} (h : Walk start (events ++ more) r s)
    (quiet : Quiet more) : Walk start events r s := by
  obtain ⟨calm, more', path, quiet'⟩ := h
  exact ⟨calm, more ++ more', by rwa [← List.append_assoc], quiet.append quiet'⟩

theorem Walk.after {r : Except Failure α} {event : Event} (h : Walk start (events ++ [event]) r s)
    (quiet : ∀ b flags, event ≠ ⟨.beginCommandBuffer b flags, .done⟩) : Walk start events r s :=
  h.append fun b flags h => quiet b flags (List.mem_singleton.1 h).symm

/-- A failure of a part is a failure of the whole. -/
theorem Walk.failed {f : Failure} (h : @Walk α start events (.error f) s) :
    @Walk β start events (.error f) s :=
  ⟨fun p hp => h.calm p (congrArg Except.error (Except.error.inj hp)), h.onward⟩

/-! ## The parts of operations -/

/-- After a successful wait for its queue the device is done with all a pool has submitted. -/
theorem Path.rest_of_drained (path : Path start events s) (b : Handle) :
    (phase (events ++ [⟨.queueWaitIdle s.pool.queue, .done⟩]) b).busy = false := by
  rw [phase_snoc]
  cases h : phase events b with
  | inFlight queue fence =>
    obtain rfl := path.queue h
    simp [Phase.step, Phase.busy]
  | _ => rfl

theorem walk_drain (path : Path start events s) :
    drain.Ends s fun r s' => s'.pool = s.pool ∧ Walk start events r s' ∧
      (r = .ok () → Path start (events ++ [⟨.queueWaitIdle s.pool.queue, .done⟩]) s') := by
  rw [ends_drain]
  cases s.machine.fault .queueWaitIdle with
  | some code =>
    have path := path.refused .queueWaitIdle (.queueWaitIdle s.pool.queue) code trivial
    exact ⟨rfl, (Walk.error _ path).after (by simp), nofun⟩
  | none => exact ⟨rfl, (Walk.ok _ path.drained).after (by simp), fun _ => path.drained⟩

theorem walk_finishRecording (path : Path start events s) (index : Nat) :
    (finishRecording index).Ends s fun r s' => Walk start events r s' ∧
      (r = .ok () → ∃ slot, s.pool.slots[index]? = some slot ∧
        Path start (events ++ [⟨.endCommandBuffer slot.commandBuffer, .done⟩]) s' ∧
        s'.pool.slots[index]? = some { slot with state := .executable }) := by
  rw [ends_finishRecording]
  cases hslot : s.pool.slots[index]? with
  | none => exact ⟨Walk.error _ path, nofun⟩
  | some slot =>
    dsimp only
    split
    case isFalse => exact ⟨Walk.error _ path, nofun⟩
    case isTrue isOpen =>
      cases s.machine.fault .endCommandBuffer with
      | some code =>
        have path := path.refused .endCommandBuffer (.endCommandBuffer slot.commandBuffer) code
          ⟨slot, List.mem_of_getElem? hslot, rfl, isOpen⟩
        exact ⟨(Walk.error _ path).after (by simp), nofun⟩
      | none =>
        have path := path.ended hslot isOpen
        exact ⟨(Walk.ok _ path).after (by simp), fun _ => ⟨slot, rfl, path, slot_setState _ hslot⟩⟩

theorem walk_submit (path : Path start events s) (sound : start.Sound) {index : Nat} {slot : Slot}
    (hslot : s.pool.slots[index]? = some slot) (ready : slot.state = .executable) :
    (submit index slot.commandBuffer).Ends s fun r s' => Walk start events r s' := by
  have hcopies := path.sound sound index slot hslot (.inr ready)
  rw [submit, ends_bind, ends_getPool]
  dsimp only
  rw [ends_bind, ends_orOperational, ends_lift,
    Machine.ends_submission _ _ _ none _ (fun _ h => nomatch h) hcopies]
  split
  case h_1 code _ =>
    have path := path.refused .queueSubmit (.queueSubmit s.pool.queue slot.commandBuffer none) code
      ⟨slot, List.mem_of_getElem? hslot, rfl, ready⟩
    exact .after (.error _ path) (by simp)
  split
  · have path := path.lost .queueSubmit (.queueSubmit s.pool.queue slot.commandBuffer none) .deviceLost
      ⟨slot, List.mem_of_getElem? hslot, rfl, ready⟩
    exact .after (.error _ path) (by simp)
  · have hnone : (s.machine.executed slot.commandBuffer none).2 = none :=
      (Machine.sameShape_executed hcopies rfl).1
    exact .after (.ok _ (path.submitted hslot ready (Prod.ext rfl hnone))) (by simp)

theorem walk_awaitFence (path : Path start events s) {index : Nat} {slot : Slot} {queue fence : Handle}
    (hslot : s.pool.slots[index]? = some slot) (pending : slot.state = .pending)
    (inFlight : phase events slot.commandBuffer = .inFlight queue (some fence))
    (live : fence ∈ s.machine.liveFences) :
    (awaitFence index fence).Ends s fun r s' => Walk start events r s' ∧
      (r = .ok () → s'.pool.slots[index]? = some { slot with state := .idle }) := by
  rw [awaitFence, ends_bind, ends_lift, Machine.ends_waitForFence _ _ _ live]
  have refused (code) :=
    (path.refused .waitForFence (.waitForFence fence fenceTimeout) code trivial).unfenced fence
  split
  · exact ⟨.after (.after (.error _ (refused _)) (by simp)) (by simp), nofun⟩
  split
  · exact ⟨.after (.after (.error _ (refused _)) (by simp)) (by simp), nofun⟩
  · have path := (path.waited fence fenceTimeout).unfenced fence
    have path := path.settled hslot pending (by simp [inFlight, Phase.step, Phase.busy])
    exact ⟨.after (.after (.ok _ path) (by simp)) (by simp), fun _ => slot_setState _ hslot⟩

theorem walk_submitFenced (path : Path start events s) (sound : start.Sound) {index : Nat}
    {slot : Slot} {fence : Handle} (hslot : s.pool.slots[index]? = some slot)
    (ready : slot.state = .executable) (live : fence ∈ s.machine.liveFences) :
    (submitFenced index slot.commandBuffer fence).Ends s fun r s' => Walk start events r s' ∧
      (r = .ok () → s'.pool.slots[index]? = some { slot with state := .idle }) := by
  have hcopies := path.sound sound index slot hslot (.inr ready)
  have asks : s.Asks events (.queueSubmit s.pool.queue slot.commandBuffer (some fence)) :=
    ⟨slot, List.mem_of_getElem? hslot, rfl, ready⟩
  rw [submitFenced, ends_bind, ends_getPool]
  dsimp only
  rw [ends_bind, ends_recover, ends_lift, ends_orOperational,
    Machine.ends_submission _ _ _ (some fence) _ (fun _ h => Option.some.inj h ▸ live) hcopies]
  have refused (code) := (path.refused .queueSubmit _ code asks).unfenced fence
  split
  · exact ⟨.after (.after (.error _ (refused _)) (by simp)) (by simp), nofun⟩
  split
  · have path := (path.lost .queueSubmit _ .deviceLost asks).unfenced fence
    exact ⟨.after (.after (.error _ path) (by simp)) (by simp), nofun⟩
  · rcases hrun : s.machine.executed slot.commandBuffer (some fence) with ⟨m, cause⟩
    obtain rfl := (Machine.sameShape_executed hcopies hrun).1
    dsimp only
    rw [ends_bind, ends_setState]
    have path := path.submitted hslot ready hrun
    have inFlight : phase
        (events ++ [⟨.queueSubmit s.pool.queue slot.commandBuffer (some fence), .done⟩])
        slot.commandBuffer = .inFlight s.pool.queue (some fence) := by
      simp [Phase.step]
    have live := Machine.liveFences_executed hrun ▸ live
    exact (walk_awaitFence path (slot_setState _ hslot) rfl inFlight live).mono fun r s' h =>
      ⟨h.1.after (by simp), h.2⟩

/-- A waiting submission that succeeds leaves the slot idle. -/
theorem walk_submitAndWait (path : Path start events s) (sound : start.Sound) {index : Nat}
    {slot : Slot} (hslot : s.pool.slots[index]? = some slot) (ready : slot.state = .executable) :
    (submitAndWait index slot.commandBuffer).Ends s fun r s' => Walk start events r s' ∧
      (r = .ok () → s'.pool.slots[index]? = some { slot with state := .idle }) := by
  rw [ends_submitAndWait]
  split
  · exact ⟨.after (.error _ (path.refused _ .createFence _ trivial)) (by simp), nofun⟩
  · exact (walk_submitFenced path.fenced sound hslot ready List.mem_cons_self).mono fun r s' h =>
      ⟨h.1.after (by simp), h.2⟩

/-! ## Operations -/

/-- A waiting flush that succeeds leaves the slot idle. -/
theorem walk_flush (path : Path start events s) (sound : start.Sound) (index : Nat) (wait : Bool) :
    (flush index wait).Ends s fun r s' => Walk start events r s' ∧
      (r = .ok () → wait = true →
        ∃ slot, s'.pool.slots[index]? = some slot ∧ slot.state = .idle) := by
  rw [ends_flush]
  cases hslot : s.pool.slots[index]? with
  | none => exact ⟨.error _ path, nofun⟩
  | some slot =>
    have executable {events s} (path : Path start events s)
        (hslot : s.pool.slots[index]? = some { slot with state := .executable }) :
        Ends (if wait then submitAndWait index slot.commandBuffer
          else submit index slot.commandBuffer) s fun r s' => Walk start events r s' ∧
            (r = .ok () → wait = true →
              ∃ slot, s'.pool.slots[index]? = some slot ∧ slot.state = .idle) := by
      cases wait with
      | true =>
        exact (walk_submitAndWait path sound hslot rfl).mono fun r s' h =>
          ⟨h.1, fun hr _ => ⟨_, h.2 hr, rfl⟩⟩
      | false => exact (walk_submit path sound hslot rfl).mono fun r s' h => ⟨h, nofun⟩
    rcases slot with ⟨b, _ | _ | _ | _⟩ <;> dsimp only
    case idle => exact ⟨.ok _ (path.told _), fun _ _ => ⟨_, rfl, rfl⟩⟩
    case recording =>
      refine (walk_finishRecording path index).mono fun r s' h => ?_
      rcases r with e | ⟨⟩
      · exact ⟨h.1.failed, nofun⟩
      · obtain ⟨slot, hslot', path, hslot''⟩ := h.2 rfl
        cases hslot.symm.trans hslot'
        exact (executable path hslot'').mono fun r s' h => ⟨h.1.after (by simp), h.2⟩
    case executable => exact executable path hslot
    case pending =>
      cases wait with
      | false => exact ⟨.ok _ path, nofun⟩
      | true =>
        rw [if_pos rfl]
        refine (walk_drain path).mono fun r s' h => ?_
        obtain ⟨hpool, walk, path'⟩ := h
        rcases r with e | ⟨⟩
        · exact ⟨walk.failed, nofun⟩
        · rw [← hpool] at hslot
          have path := (path' rfl).settled hslot rfl (path.rest_of_drained b)
          exact ⟨.after (.ok _ path) (by simp), fun _ _ => ⟨_, slot_setState _ hslot, rfl⟩⟩

/-- A waiting flush of several slots that succeeds leaves them idle. -/
theorem walk_flushFrom (path : Path start events s) (sound : start.Sound) (wait : Bool)
    (index n : Nat) :
    (flushFrom wait index n).Ends s fun r s' => Walk start events r s' ∧
      (∀ j < index, s'.pool.slots[j]? = s.pool.slots[j]?) ∧
      (r = .ok () → wait = true → ∀ j, index ≤ j → j < index + n →
        ∃ slot, s'.pool.slots[j]? = some slot ∧ slot.state = .idle) := by
  induction n generalizing index events s with
  | zero => exact ⟨.ok _ path, fun _ _ => rfl, fun _ _ j h h' => absurd h (Nat.not_le.2 h')⟩
  | succ n ih =>
    rw [ends_flushFrom_succ]
    have spares : (flush index wait).Ends s fun _ s' =>
        ∀ j : Fin index, s'.pool.slots[j.val]? = s.pool.slots[j.val]? :=
      .forall fun j => spares_flush (Nat.ne_of_lt j.isLt) wait s
    refine ((walk_flush path sound index wait).and spares).mono fun r s' h => ?_
    obtain ⟨⟨⟨calm, more, path, quiet⟩, idle⟩, fixed⟩ := h
    have before : ∀ j < index, s'.pool.slots[j]? = s.pool.slots[j]? := fun j hj => fixed ⟨j, hj⟩
    rcases r with (e | p) | ⟨⟩
    · exact ⟨⟨nofun, more, path, quiet⟩, before, nofun⟩
    · exact absurd rfl (calm p)
    refine (ih path (index + 1)).mono fun r s'' h => ?_
    obtain ⟨walk, before', idle'⟩ := h
    refine ⟨walk.append quiet, fun j hj => ?_, fun hr hw j hj hj' => ?_⟩
    · rw [before' j (by omega), before j hj]
    · rcases Nat.eq_or_lt_of_le hj with rfl | hlt
      · rw [before' index (by omega)]
        exact idle rfl hw
      · exact idle' hr hw j hlt (by omega)

theorem walk_close (path : Path start events s) (sound : start.Sound) (index : Nat)
    (ending : Ending) :
    (close index ending).Ends s fun r s' => Walk start events r s' := by
  cases ending with
  | keep => exact (walk_finishRecording path index).mono fun _ _ h => h.1
  | submit | finish => exact (walk_flush path sound index _).mono fun _ _ h => h.1

/-- A begin of slot `index` that succeeded. An executable slot is begun at once. -/
def Begins (start : Session) (events : List Event) (s : Session) (index : Nat) (b : Handle)
    (s' : Session) : Prop :=
  ∃ more s₀ slot flags, Path start (events ++ more) s₀ ∧ Quiet more ∧
    s₀.pool.slots[index]? = some slot ∧ MayBegin (events ++ more) slot ∧ slot.commandBuffer = b ∧
    (slot.state = .executable → more = [] ∧ s.pool.slots[index]? = some slot) ∧
    s' = { machine := s₀.machine.began b flags, pool := s₀.pool.setState index .recording }

theorem walk_begin (path : Path start events s) (index : Nat) (flags : UInt32) :
    (begin index flags).Ends s fun r s' =>
      match r with
      | .ok b => Begins start events s index b s'
      | r => Walk start events r s' := by
  rw [ends_begin]
  cases hslot : s.pool.slots[index]? with
  | none => exact .error _ path
  | some slot =>
    -- What is left when the slot may be begun, with the events that led there.
    have rest {more s₀} (path : Path start (events ++ more) s₀) (quiet : Quiet more)
        (hpool : s₀.pool = s.pool) (may : MayBegin (events ++ more) slot)
        (direct : slot.state = .executable → more = []) :
        (startRecording index slot.commandBuffer flags).Ends s₀ fun r s' =>
          match r with
          | .ok b => Begins start events s index b s'
          | r => Walk start events r s' := by
      rw [ends_startRecording]
      rw [← hpool] at hslot
      cases s₀.machine.fault .beginCommandBuffer with
      | some code =>
        have path := path.refused .beginCommandBuffer (.beginCommandBuffer slot.commandBuffer flags)
          code ⟨slot, List.mem_of_getElem? hslot, rfl, may⟩
        exact ⟨nofun, more ++ [_], by rwa [← List.append_assoc], quiet.append (by simp [Quiet])⟩
      | none =>
        exact ⟨more, s₀, slot, flags, path, quiet, hslot, may, rfl,
          fun h => ⟨direct h, hpool ▸ hslot⟩, rfl⟩
    have now : Path start (events ++ []) s := by rwa [List.append_nil]
    rcases slot with ⟨b, _ | _ | _ | _⟩ <;> dsimp only
    case idle => exact rest now nofun rfl ⟨nofun, nofun⟩ nofun
    case recording => exact .error _ path
    case executable => exact rest now nofun rfl ⟨nofun, nofun⟩ fun _ => rfl
    case pending =>
      refine (walk_drain (path.told _)).mono fun r s' h => ?_
      obtain ⟨hpool, walk, path'⟩ := h
      rcases r with e | ⟨⟩
      · exact walk.failed
      · exact rest (path' rfl) (by simp [Quiet]) hpool ⟨nofun, fun _ => path.rest_of_drained b⟩ nofun

/-- An acquire gives the slot at the cursor, which it flushes first if it is open. -/
theorem walk_acquire (path : Path start events s) (sound : start.Sound) :
    acquire.Ends s fun r s' =>
      match r with
      | .ok (index, b) => index = s.pool.cursor ∧ Begins start events s index b s'
      | r => Walk start events r s' := by
  rw [ends_acquire]
  have turned := path.turned ((s.pool.cursor + 1) % s.pool.slots.length) s.pool.autoFlushes
  refine (walk_begin turned s.pool.cursor simultaneousUse).mono fun r s' h => ?_
  split
  · exact ⟨rfl, h⟩
  · rw [ends_reopen]
    obtain ⟨-, more, path, quiet⟩ := h
    refine (walk_flush (path.told _) sound s.pool.cursor true).mono fun r s' h => ?_
    obtain ⟨walk, idle⟩ := h
    rcases r with e | ⟨⟩
    · exact (walk.append quiet).failed
    obtain ⟨-, more', path, quiet'⟩ := walk
    have turned := path.turned s'.pool.cursor (s'.pool.autoFlushes + 1)
    refine (walk_begin turned s.pool.cursor simultaneousUse).mono fun r s'' h => ?_
    have quiet := quiet.append quiet'
    rw [List.append_assoc] at h turned
    rcases r with e | b
    · exact ((h : Walk ..).append quiet).failed
    obtain ⟨slot, hslot, isIdle⟩ := idle rfl rfl
    obtain ⟨more'', s₀, slot', flags, path, quiet'', hslot', may, hb, direct, rfl⟩ := h
    rw [List.append_assoc] at path may
    refine ⟨rfl, _, s₀, slot', flags, path, quiet.append quiet'', hslot', may, hb, fun hx => ?_, rfl⟩
    -- The slot was idle after the flush, so it is not an executable one that is begun here.
    cases hslot.symm.trans (direct hx).2
    exact absurd (isIdle.symm.trans hx) nofun
  · exact (h : Walk ..).failed

theorem walk_flushAll (path : Path start events s) (sound : start.Sound) (wait : Bool) :
    (flushAll wait).Ends s fun r s' => Walk start events r s' ∧
      (r = .ok () → wait = true → ∀ j < s.pool.slots.length,
        ∃ slot, s'.pool.slots[j]? = some slot ∧ slot.state = .idle) := by
  rw [flushAll, ends_bind, ends_getPool]
  refine (walk_flushFrom path sound wait 0 s.pool.slots.length).mono fun r s' h => ?_
  exact ⟨h.1, fun hr hw j hj => h.2.2 hr hw j (Nat.zero_le j) (by omega)⟩

/-- Naming the reply to a request changes nothing. -/
theorem walk_reply {act : Action Session α} (h : act.Ends s fun r s' => Walk start events r s')
    (reply : α → PoolReply) :
    Ends (act >>= fun a => pure (reply a)) s fun r s' => Walk start events r s' := by
  rw [ends_bind]
  refine h.mono fun r s' walk => ?_
  rcases r with e | a
  · exact walk.failed
  · exact ⟨nofun, walk.onward⟩

theorem walk_slot (path : Path start events s) (index : Nat) :
    (slot index).Ends s fun r s' => Walk start events r s' := by
  rw [ends_slot]
  split
  · exact .ok _ path
  · exact .error _ path

/-- A request either ends without a successful begin, or it is a begin or an acquire that succeeded. -/
theorem walk_perform (path : Path start events s) (sound : start.Sound) (operation : PoolOperation) :
    (perform operation).Ends s fun r s' => Walk start events r s' ∨
      ∃ index b, Begins start events s index b s' ∧
        ((∃ flags, operation = .begin index flags) ∧ r = .ok (.commandBuffer b) ∨
          operation = .acquire ∧ index = s.pool.cursor ∧ r = .ok (.acquired index b)) := by
  cases operation with
  | begin index flags =>
    rw [perform, ends_bind]
    refine (walk_begin path index flags).mono fun r s' h => ?_
    rcases r with e | b
    · exact .inl (h : Walk ..).failed
    · exact .inr ⟨index, b, h, .inl ⟨⟨flags, rfl⟩, rfl⟩⟩
  | acquire =>
    rw [perform, ends_bind]
    refine (walk_acquire path sound).mono fun r s' h => ?_
    rcases r with e | ⟨index, b⟩
    · exact .inl (h : Walk ..).failed
    · exact .inr ⟨index, b, h.2, .inr ⟨rfl, h.1, rfl⟩⟩
  | finishRecording index =>
    exact (walk_reply ((walk_finishRecording path index).mono fun _ _ h => h.1) _).mono fun _ _ => .inl
  | flush index wait =>
    exact (walk_reply ((walk_flush path sound index wait).mono fun _ _ h => h.1) _).mono fun _ _ => .inl
  | flushAll wait =>
    exact (walk_reply ((walk_flushAll path sound wait).mono fun _ _ h => h.1) _).mono fun _ _ => .inl
  | close index ending =>
    exact (walk_reply (walk_close path sound index ending) _).mono fun _ _ => .inl
  | commandBuffer index => exact (walk_reply (walk_slot path index) _).mono fun _ _ => .inl
  | state index => exact (walk_reply (walk_slot path index) _).mono fun _ _ => .inl

/-! ## Runs -/

/-- The sessions that requests lead to, and copies recorded into open slots between them. -/
inductive Reach (start : Session) : Session → Prop where
  | start : Reach start start
  | perform {s : Session} (operation : PoolOperation) (reach : Reach start s) :
    Reach start ((perform operation).finalState s)
  | record {s : Session} {index : Nat} {slot : Slot} (copy : RecordedCopy) (reach : Reach start s)
      (hslot : s.pool.slots[index]? = some slot) (isOpen : slot.state = .recording)
      (sound : s.machine.CanCopy copy) :
    Reach start ((onMachine (Machine.copyBuffer slot.commandBuffer copy.source copy.destination
      copy.region)).finalState s)

theorem Begins.path {index : Nat} {b : Handle} {s' : Session} (h : Begins start events s index b s') :
    ∃ more, Path start (events ++ more) s' := by
  obtain ⟨more, s₀, slot, flags, path, -, hslot, may, rfl, -, rfl⟩ := h
  exact ⟨_, List.append_assoc .. ▸ path.begun flags hslot may⟩

theorem path_perform (path : Path start events s) (sound : start.Sound) (operation : PoolOperation) :
    (perform operation).Ends s fun r s' =>
      (∀ p, r ≠ .error (.panic p)) ∧ ∃ more, Path start (events ++ more) s' := by
  refine (walk_perform path sound operation).mono fun r s' h => ?_
  rcases h with ⟨calm, more, path, -⟩ | ⟨index, b, begins, ⟨-, rfl⟩ | ⟨-, -, rfl⟩⟩
  · exact ⟨calm, more, path⟩
  · exact ⟨nofun, begins.path⟩
  · exact ⟨nofun, begins.path⟩

/-- Every session that is reached lies on a path. -/
theorem Reach.path (reach : Reach start s) (sound : start.Sound) : ∃ events, Path start events s := by
  induction reach with
  | start => exact ⟨[], .start⟩
  | perform operation reach ih =>
    obtain ⟨events, path⟩ := ih
    have h := (path_perform path sound operation).mono fun _ _ h => h.2
    obtain ⟨more, path⟩ := ends_finalState.1 h
    exact ⟨_, path⟩
  | record copy reach hslot isOpen sound ih =>
    obtain ⟨events, path⟩ := ih
    exact ⟨_, path.queued copy hslot isOpen sound⟩

end CopyBench.Session
