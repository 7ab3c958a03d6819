import CopyBench.Proofs.Buffer.Steps
import CopyBench.Proofs.Pool.Creation
import CopyBench.Proofs.Trace.Fences
/-!
# Fences are one-shot

A pool makes a fence for each submission that it waits for, and destroys it before it answers. So whenever
an operation has returned, no fence is live, and every fence that was ever made was submitted once, waited
for at most once and only after that submission was accepted, and destroyed once. No submission and no wait
is given a fence that is not live: an operation can only break down at a copy that cannot be executed.
-/

namespace CopyBench

open CopyBench.Action

/-- A promise about a copy was broken, and not one about a fence. -/
def Panic.OfCopy (p : Panic) : Prop := p = .copyBetweenUnboundBuffers ∨ p = .copyOutOfRange

namespace Machine

/-- Every fence that was made has had its one use and is gone. -/
structure FencesSpent (m : Machine) : Prop where
  none_live : m.liveFences = []
  counted : m.counters.fencesCreated = m.counters.fencesDestroyed
  /-- The events about a fence are a whole life. Its number is one that was given out. -/
  oneShot : ∀ fence, about fence m.trace.toList ≠ [] →
    OneShot fence (about fence m.trace.toList) ∧ fence ≤ m.lastHandle

/-- Two machines have made and destroyed the same fences. -/
structure SameFences (m m' : Machine) : Prop where
  liveFences : m'.liveFences = m.liveFences
  created : m'.counters.fencesCreated = m.counters.fencesCreated
  destroyed : m'.counters.fencesDestroyed = m.counters.fencesDestroyed
  lastHandle : m.lastHandle ≤ m'.lastHandle

variable {m m' : Machine} {event : Event}

theorem fencesSpent_new (profile : MemoryProfile) (schedule : Schedule) (lostSubmits : List Handle)
    (lostWaits : Bool) : FencesSpent { profile, schedule, lostSubmits, lostWaits } :=
  ⟨rfl, rfl, fun _ some => absurd rfl some⟩

/-- A change without an event. -/
theorem FencesSpent.silent (spent : FencesSpent m) (same : SameFences m m') (trace : m'.trace = m.trace) :
    FencesSpent m' := by
  refine ⟨same.liveFences.trans spent.none_live, ?_, fun fence some => ?_⟩
  · rw [same.created, same.destroyed, spent.counted]
  · rw [trace] at some ⊢
    obtain ⟨life, given⟩ := spent.oneShot fence some
    exact ⟨life, Nat.le_trans given same.lastHandle⟩

/-- A call that is about no fence. -/
theorem FencesSpent.call (spent : FencesSpent m) (same : SameFences m m')
    (trace : m'.trace = m.trace.push event) (none : event.fence? = none) : FencesSpent m' := by
  refine ⟨same.liveFences.trans spent.none_live, ?_, fun fence some => ?_⟩
  · rw [same.created, same.destroyed, spent.counted]
  · rw [trace, Array.toList_push, about_append, about_singleton none, List.append_nil] at some ⊢
    obtain ⟨life, given⟩ := spent.oneShot fence some
    exact ⟨life, Nat.le_trans given same.lastHandle⟩

/-- The whole life of a fence with a new number. -/
theorem FencesSpent.life {more : List Event} (spent : FencesSpent m)
    (life : OneShot (m.lastHandle + 1) more) (trace : m'.trace.toList = m.trace.toList ++ more)
    (liveFences : m'.liveFences = m.liveFences)
    (created : m'.counters.fencesCreated = m.counters.fencesCreated + 1)
    (destroyed : m'.counters.fencesDestroyed = m.counters.fencesDestroyed + 1)
    (lastHandle : m.lastHandle + 1 ≤ m'.lastHandle) : FencesSpent m' := by
  refine ⟨liveFences.trans spent.none_live, ?_, fun fence some => ?_⟩
  · rw [created, destroyed, spent.counted]
  · rw [trace, about_append] at some ⊢
    by_cases new : fence = m.lastHandle + 1
    · subst new
      have unused : about (m.lastHandle + 1) m.trace.toList = [] := by
        refine Decidable.byContradiction fun used => ?_
        exact Nat.not_succ_le_self _ (spent.oneShot _ used).2
      rw [unused, life.about_self]
      exact ⟨life, lastHandle⟩
    · rw [life.about_other new, List.append_nil] at some ⊢
      obtain ⟨old, given⟩ := spent.oneShot fence some
      exact ⟨old, Nat.le_trans (Nat.le_succ_of_le given) lastHandle⟩

/-- Making a pool has nothing to do with fences. -/
theorem FencesSpent.created (spent : FencesSpent m) (device : Device) (depth : Nat) (family : UInt32) (level : Int) :
    FencesSpent (CommandPool.created m device depth family level) := by
  have announced : FencesSpent (m.announced device) := by
    unfold announced
    cases device.route with
    | direct => exact spent
    | logical debugNames => exact spent.call ⟨rfl, rfl, rfl, Nat.le_refl _⟩ rfl rfl
  have pooled : FencesSpent (m.pooled device family) :=
    announced.call ⟨rfl, rfl, rfl, Nat.le_succ _⟩ rfl rfl
  have allotted : FencesSpent ((m.pooled device family).allotted (m.lastHandle + 1) level depth) :=
    pooled.call ⟨rfl, rfl, rfl, Nat.le_add_right _ _⟩ rfl rfl
  exact allotted.silent ⟨rfl, rfl, rfl, Nat.le_refl _⟩ rfl

/-! ## Submissions -/

/-- Copies that cannot all be executed break a promise about a copy. -/
theorem ofCopy_of_replay {copies : List RecordedCopy} {cause : Panic} (run : replay copies m = (m', some cause)) :
    cause.OfCopy := by
  induction copies generalizing m with
  | nil => cases run
  | cons copy copies ih =>
    rw [replay] at run
    cases hcopied : m.copied copy with
    | ok m₁ =>
      rw [hcopied] at run
      exact ih run
    | error cause' =>
      rw [hcopied] at run
      cases run
      simp only [copied] at hcopied
      split at hcopied
      · split at hcopied
        · split at hcopied
          · cases hcopied
          · exact .inr (Except.error.inj hcopied).symm
        · exact .inr (Except.error.inj hcopied).symm
      · exact .inl (Except.error.inj hcopied).symm

theorem sameFences_executed {b : Handle} {fence : Option Handle} {cause : Option Panic}
    (run : m.executed b fence = (m', cause)) (call : Call) (reply : Reply) :
    SameFences m (m'.traced call reply) := by
  obtain ⟨_, hframe, -⟩ := executed_frame run
  have counted := counters_executed run
  refine ⟨(liveFences_traced m' call reply).trans (liveFences_executed run), ?_, ?_, Nat.le_of_eq ?_⟩
  · exact (congrArg Counters.fencesCreated counted).trans rfl
  · exact (congrArg Counters.fencesDestroyed counted).trans rfl
  · exact ((congrArg Machine.lastHandle hframe).trans rfl).symm

/-- A submission makes and destroys no fence, its event says whether it was accepted, and it can only break
down at a copy. -/
theorem ends_queueSubmit_fences (device : Device) (queue b : Handle) (fence : Option Handle)
    (live : ∀ f, fence = some f → f ∈ m.liveFences) :
    (device.queueSubmit queue b fence).Ends m fun r m' => SameFences m m' ∧
      ∃ reply, m'.trace = m.trace.push ⟨.queueSubmit queue b fence, reply⟩ ∧
        match r with
        | .ok (.ok ()) => reply = .done
        | .ok (.error _) => reply ≠ .done
        | .error f => ∃ p, f = .panic p ∧ p.OfCopy := by
  have same : SameFences m m := ⟨rfl, rfl, rfl, Nat.le_refl _⟩
  rw [ends_device_queueSubmit, ends_queueSubmit _ _ _ _ live]
  cases m.fault .queueSubmit with
  | some code => cases device.route <;> exact ⟨⟨rfl, rfl, rfl, Nat.le_refl _⟩, _, rfl, nofun⟩
  | none =>
    dsimp only
    split
    · cases device.route <;> exact ⟨⟨rfl, rfl, rfl, Nat.le_refl _⟩, _, rfl, nofun⟩
    · rcases hrun : m.executed b fence with ⟨m₁, _ | cause⟩
      · have handed := congrArg (·.push (Event.mk (.queueSubmit queue b fence) .done)) (trace_executed hrun)
        cases device.route <;> exact ⟨sameFences_executed hrun _ _, _, handed, rfl⟩
      · have handed := congrArg (·.push (Event.mk (.queueSubmit queue b fence) .crashed)) (trace_executed hrun)
        cases device.route with
        | direct => exact ⟨sameFences_executed hrun _ _, _, handed, cause, rfl, ofCopy_of_replay hrun⟩
        | logical debugNames => exact ⟨sameFences_executed hrun _ _, _, handed, nofun⟩

/-- Nothing that is done with buffers has to do with fences. -/
theorem BufferStep.fencesSpent (step : BufferStep m m') (spent : FencesSpent m) : FencesSpent m' := by
  cases step with
  | told note => exact spent.silent ⟨rfl, rfl, rfl, Nat.le_refl _⟩ rfl
  | refused point code on =>
    refine spent.call ⟨rfl, rfl, rfl, Nat.le_refl _⟩ rfl ?_
    rename_i call
    cases call <;> first | rfl | exact on.elim
  | named | bound | mapped | unmappable | unmapped | destroyed | freed =>
    exact spent.call ⟨rfl, rfl, rfl, Nat.le_refl _⟩ rfl rfl
  | buffered | allocated => exact spent.call ⟨rfl, rfl, rfl, Nat.le_succ _⟩ rfl rfl
  | overwritten memory offset patch =>
    unfold Machine.overwritten
    split
    · exact spent.silent ⟨rfl, rfl, rfl, Nat.le_refl _⟩ rfl
    · exact spent

end Machine

namespace Session

open Machine (FencesSpent SameFences BufferStep)

variable {α β : Type} {s s' start : Session}

/-- What an operation leaves that found all fences spent: they are, unless it broke down at a copy. -/
def SpentBy (r : Except Failure α) (s : Session) : Prop :=
  match r with
  | .error (.panic p) => p.OfCopy
  | _ => s.machine.FencesSpent

/-- The action spends each fence that it makes. -/
def Spends (act : Action Session α) : Prop := ∀ s, s.machine.FencesSpent → act.Ends s SpentBy

theorem SpentBy.failed {f : Failure} (h : @SpentBy α (.error f) s) : @SpentBy β (.error f) s := by
  cases f <;> exact h

namespace Spends

theorem pure (a : α) : Spends (pure a) := fun _ spent => spent

theorem fail (e : Error) : @Spends α (Action.fail e) := fun _ spent => spent

theorem bind {act : Action Session α} {f : α → Action Session β} (h : Spends act) (h' : ∀ a, Spends (f a)) :
    Spends (act >>= f) := fun s spent => by
  rw [ends_bind]
  refine (h s spent).mono fun r s₁ h => ?_
  cases r with
  | error f => exact h.failed
  | ok a => exact h' a s₁ h

theorem ite {p : Prop} [Decidable p] {x y : Action Session α} (hx : Spends x) (hy : Spends y) :
    Spends (if p then x else y) := by
  split
  · exact hx
  · exact hy

theorem recover {act : Action Session α} (h : Spends act) : Spends (recover act) := fun s spent => by
  rw [ends_recover]
  refine (h s spent).mono fun r s₁ h => ?_
  rcases r with (e | p) | a <;> exact h

theorem orOperational {act : Action Session (Except ResultCode α)} (call : String) (h : Spends act) :
    Spends (orOperational call act) :=
  h.bind fun answer => by
    cases answer with
    | ok a => exact pure a
    | error code => exact fail _

end Spends

theorem spends_log (level : Level) (message : String) : Spends (log level message) := fun _ spent =>
  FencesSpent.silent spent ⟨rfl, rfl, rfl, Nat.le_refl _⟩ rfl

theorem spends_getPool : Spends getPool := fun _ spent => spent

theorem spends_setState (index : Nat) (state : SlotState) : Spends (setState index state) := fun _ spent => spent

theorem spends_slot (index : Nat) : Spends (slot index) := fun s spent => by
  rw [ends_slot]
  cases s.pool.slots[index]? <;> exact spent

/-! ## Calls about no fence -/

theorem spends_drain : Spends drain := fun s spent => by
  rw [ends_drain]
  cases s.machine.fault .queueWaitIdle <;> exact spent.call ⟨rfl, rfl, rfl, Nat.le_refl _⟩ rfl rfl

theorem spends_beginCommandBuffer (b : Handle) (flags : UInt32) :
    Spends (liftM (Machine.beginCommandBuffer b flags)) := fun s spent => by
  rw [ends_lift, Machine.ends_beginCommandBuffer]
  cases s.machine.fault .beginCommandBuffer <;> exact spent.call ⟨rfl, rfl, rfl, Nat.le_refl _⟩ rfl rfl

theorem spends_endCommandBuffer (b : Handle) : Spends (liftM (Machine.endCommandBuffer b)) := fun s spent => by
  rw [ends_lift, Machine.ends_endCommandBuffer]
  cases s.machine.fault .endCommandBuffer <;> exact spent.call ⟨rfl, rfl, rfl, Nat.le_refl _⟩ rfl rfl

theorem spends_begin (index : Nat) (flags : UInt32) : Spends (begin index flags) := by
  refine (spends_slot index).bind fun slot => ?_
  have opened : Spends (do
      orOperational Entrypoint.beginCommandBuffer.symbol
        (liftM (Machine.beginCommandBuffer slot.commandBuffer flags))
      setState index .recording
      pure slot.commandBuffer : Action Session Handle) :=
    ((spends_beginCommandBuffer _ _).orOperational _).bind fun _ => (spends_setState _ _).bind fun _ => .pure _
  rcases slot with ⟨b, _ | _ | _ | _⟩ <;> dsimp only at opened ⊢
  case idle | executable => exact opened
  case recording => exact .fail _
  case pending => exact (spends_log _ _).bind fun _ => spends_drain.bind fun _ => opened

theorem spends_finishRecording (index : Nat) : Spends (finishRecording index) :=
  (spends_slot index).bind fun slot =>
    .ite (((spends_endCommandBuffer slot.commandBuffer).orOperational _).bind fun _ => spends_setState _ _) (.fail _)

theorem spends_submit (index : Nat) (b : Handle) : Spends (submit index b) := by
  refine spends_getPool.bind fun pool => Spends.bind (.orOperational _ fun s spent => ?_) fun _ =>
    spends_setState index _
  rw [ends_lift]
  refine (Machine.ends_queueSubmit_fences pool.device pool.queue b none nofun).mono fun r m h => ?_
  obtain ⟨same, reply, trace, answer⟩ := h
  rcases r with f | code | _
  · obtain ⟨p, rfl, ofCopy⟩ := answer
    exact ofCopy
  · exact FencesSpent.call spent same trace rfl
  · exact FencesSpent.call spent same trace rfl

/-! ## The life of a fence -/

/-- A fence whose submission was accepted is waited for once and then destroyed. -/
theorem ends_awaitFence_spent {m : Machine} {queue b : Handle} (index : Nat) (spent : m.FencesSpent)
    (same : SameFences m.fenced s.machine)
    (trace : s.machine.trace = m.fenced.trace.push ⟨.queueSubmit queue b (some (m.lastHandle + 1)), .done⟩) :
    (awaitFence index (m.lastHandle + 1)).Ends s SpentBy := by
  have live : m.lastHandle + 1 ∈ s.machine.liveFences := same.liveFences ▸ List.mem_cons_self
  -- Whatever the wait is answered, what follows it ends the life of the fence.
  have destroyed (m' : Machine) (reply : Reply) (frame : SameFences s.machine m')
      (waited : m'.trace = s.machine.trace.push ⟨.waitForFence (m.lastHandle + 1) fenceTimeout, reply⟩) :
      FencesSpent (m'.unfenced (m.lastHandle + 1)) := by
    refine spent.life (.awaited queue b fenceTimeout reply) ?_ ?_ ?_ ?_ ?_
    · rw [Machine.trace_unfenced, waited, trace, Machine.trace_fenced]
      simp
    · change m'.liveFences.erase _ = _
      rw [frame.liveFences, same.liveFences]
      exact List.erase_cons_head (m.lastHandle + 1) m.liveFences
    · exact frame.created.trans same.created
    · exact congrArg (· + 1) (frame.destroyed.trans same.destroyed)
    · exact Nat.le_trans same.lastHandle frame.lastHandle
  have refused (code : ResultCode) := destroyed
    (s.machine.refuse .waitForFence (.waitForFence (m.lastHandle + 1) fenceTimeout) code) (.failed code)
    ⟨rfl, rfl, rfl, Nat.le_refl _⟩ rfl
  rw [awaitFence, ends_bind, ends_lift, Machine.ends_waitForFence _ _ _ live]
  split
  · exact refused _
  split
  · exact refused _
  · exact destroyed (s.machine.waited (m.lastHandle + 1) fenceTimeout) .done ⟨rfl, rfl, rfl, Nat.le_refl _⟩ rfl

/-- The fence that was just made is submitted, and destroyed in the end. -/
theorem ends_submitFenced_spent (index : Nat) (b : Handle) (spent : s.machine.FencesSpent) :
    (submitFenced index b (s.machine.lastHandle + 1)).Ends { s with machine := s.machine.fenced } SpentBy := by
  have live : ∀ f, some (s.machine.lastHandle + 1) = some f → f ∈ s.machine.fenced.liveFences :=
    fun _ h => Option.some.inj h ▸ List.mem_cons_self
  rw [submitFenced, ends_bind, ends_getPool]
  dsimp only
  rw [ends_bind, ends_recover, ends_lift, ends_orOperational]
  refine (Machine.ends_queueSubmit_fences s.pool.device s.pool.queue b _ live).mono fun r m h => ?_
  obtain ⟨same, reply, trace, answer⟩ := h
  rcases r with f | code | _
  · obtain ⟨p, rfl, ofCopy⟩ := answer
    exact ofCopy
  · -- The submission was not accepted: the fence is destroyed, and the error passed on.
    have destroyed : FencesSpent (m.unfenced (s.machine.lastHandle + 1)) := by
      refine spent.life (.refused s.pool.queue b answer) ?_ ?_ same.created (congrArg (· + 1) same.destroyed)
        same.lastHandle
      · rw [Machine.trace_unfenced, trace, Machine.trace_fenced]
        simp
      · change m.liveFences.erase _ = _
        rw [same.liveFences]
        exact List.erase_cons_head (s.machine.lastHandle + 1) s.machine.liveFences
    exact destroyed
  · subst answer
    dsimp only
    rw [ends_bind, ends_setState]
    exact ends_awaitFence_spent (s := ⟨m, s.pool.setState index .pending⟩) index spent same trace

theorem spends_submitAndWait (index : Nat) (b : Handle) : Spends (submitAndWait index b) := fun s spent => by
  rw [ends_submitAndWait]
  cases s.machine.fault .createFence with
  | some code => exact FencesSpent.call spent ⟨rfl, rfl, rfl, Nat.le_refl _⟩ rfl rfl
  | none => exact ends_submitFenced_spent index b spent

/-! ## Operations -/

theorem spends_flush (index : Nat) (wait : Bool) : Spends (flush index wait) := by
  have submission (b : Handle) : Spends (if wait then submitAndWait index b else submit index b) :=
    .ite (spends_submitAndWait index b) (spends_submit index b)
  refine (spends_slot index).bind fun slot => ?_
  rcases slot with ⟨b, _ | _ | _ | _⟩ <;> dsimp only
  case idle => exact spends_log _ _
  case recording => exact (spends_finishRecording index).bind fun _ => submission b
  case executable => exact submission b
  case pending => exact .ite (spends_drain.bind fun _ => spends_setState _ _) (.pure _)

theorem spends_flushFrom (wait : Bool) (n : Nat) : ∀ index, Spends (flushFrom wait index n) := by
  induction n with
  | zero => exact fun _ => .pure _
  | succ n ih =>
    refine fun index => (spends_flush index wait).recover.bind fun r => ?_
    cases r with
    | ok _ => exact ih (index + 1)
    | error e => exact .fail _

theorem spends_flushAll (wait : Bool) : Spends (flushAll wait) :=
  spends_getPool.bind fun pool => spends_flushFrom wait pool.slots.length 0

theorem spends_close (index : Nat) (ending : Ending) : Spends (close index ending) := by
  cases ending with
  | keep => exact spends_finishRecording index
  | submit | finish => exact spends_flush index _

theorem spends_acquire : Spends acquire := fun s spent => by
  have begins (index : Nat) := spends_begin index simultaneousUse
  rw [ends_acquire]
  refine (begins s.pool.cursor { s with pool := turned s.pool } spent).mono fun r s₁ h => ?_
  split
  · exact h
  · rw [ends_reopen]
    have told (note : Note) : (Console.tell note s₁ : Session).machine.FencesSpent :=
      FencesSpent.silent h ⟨rfl, rfl, rfl, Nat.le_refl _⟩ rfl
    refine (spends_flush s.pool.cursor true _ (told _)).mono fun r s₂ h => ?_
    cases r with
    | error f => exact h.failed
    | ok _ =>
      refine (begins s.pool.cursor { s₂ with pool := { s₂.pool with autoFlushes := s₂.pool.autoFlushes + 1 } }
        h).mono fun r s₃ h => ?_
      cases r with
      | error f => exact h.failed
      | ok b => exact h
  · exact h.failed

/-- Every operation of a pool spends the fences that it makes. -/
theorem spends_perform (operation : PoolOperation) : Spends (perform operation) := by
  cases operation with
  | begin index flags => exact (spends_begin index flags).bind fun _ => .pure _
  | finishRecording index => exact (spends_finishRecording index).bind fun _ => .pure _
  | flush index wait => exact (spends_flush index wait).bind fun _ => .pure _
  | flushAll wait => exact (spends_flushAll wait).bind fun _ => .pure _
  | acquire => exact spends_acquire.bind fun _ => .pure _
  | close index ending => exact (spends_close index ending).bind fun _ => .pure _
  | commandBuffer index => exact (spends_slot index).bind fun _ => .pure _
  | state index => exact (spends_slot index).bind fun _ => .pure _

/-! ## Runs -/

/-- Whether an action that ended so has answered, with a value or an error. -/
def answered : Except Failure α → Bool
  | .error (.panic _) => false
  | _ => true

/-- The sessions in which operations answer, with anything in between that is not an operation: copies are
recorded, buffers are made, used and released, and other calls are to fail from then on. -/
inductive Usage (start : Session) : Session → Prop where
  | start : Usage start start
  | performed {s : Session} (operation : PoolOperation) (usage : Usage start s)
      (answers : (perform operation).Ends s fun r _ => answered r = true) :
    Usage start ((perform operation).finalState s)
  | recorded {s : Session} (b : Handle) (copy : RecordedCopy) (usage : Usage start s) :
    Usage start { s with machine := s.machine.queued b copy }
  | buffers {s : Session} {m : Machine} (usage : Usage start s) (step : BufferStep s.machine m) :
    Usage start { s with machine := m }
  | faults {s : Session} (schedule : Schedule) (lostSubmits : List Handle) (lostWaits : Bool) (usage : Usage start s) :
    Usage start { s with machine := { s.machine with schedule, lostSubmits, lostWaits } }

theorem Usage.fencesSpent (usage : Usage start s) (spent : start.machine.FencesSpent) :
    s.machine.FencesSpent := by
  induction usage with
  | start => exact spent
  | @performed s operation _ answers ih =>
    have spent : (perform operation).Ends s fun _ s' => s'.machine.FencesSpent := by
      refine ((spends_perform operation s ih).and answers).mono fun r s' h => ?_
      obtain ⟨spent, answered⟩ := h
      rcases r with (e | p) | reply
      · exact spent
      · cases answered
      · exact spent
    exact ends_finalState.1 spent
  | recorded b copy _ ih => exact FencesSpent.call ih ⟨rfl, rfl, rfl, Nat.le_refl _⟩ rfl rfl
  | buffers _ step ih => exact step.fencesSpent ih
  | faults _ _ _ _ ih => exact FencesSpent.silent ih ⟨rfl, rfl, rfl, Nat.le_refl _⟩ rfl

/-- Wherever operations of a new pool have answered, with a value or an error, no fence is live and every fence
was one-shot. From there any operation leaves it so, unless it breaks down at a copy. -/
theorem fencesSpent_of_usage {profile : MemoryProfile} {schedule : Schedule} {lostSubmits : List Handle}
    {lostWaits : Bool} {device : Device} {queue : Handle} {depth : Nat} {family : UInt32} {level : Int}
    {pool : CommandPool} {m : Machine}
    (created : CommandPool.create device queue depth family level { profile, schedule, lostSubmits, lostWaits } =
      .ok pool m) (usage : Usage ⟨m, pool⟩ s) :
    s.machine.FencesSpent ∧ ∀ operation, (perform operation).Ends s SpentBy := by
  obtain ⟨-, -, -, rfl⟩ := CommandPool.create_eq created
  have spent : s.machine.FencesSpent :=
    usage.fencesSpent ((Machine.fencesSpent_new ..).created device depth family level)
  exact ⟨spent, fun operation => spends_perform operation s spent⟩

/-- The first wait for a fence fails. A slot is acquired and flushed, and that fence is gone; so is the next
one, after the slot was drained and flushed again. -/
theorem fencesSpent_losesFirstWait :
    let m : Machine := { schedule := .ofRules [{ point := .waitForFence }] }
    let start : Session := ⟨CommandPool.created m { memoryTypes := [] } 1 0 0,
      CommandPool.fresh { memoryTypes := [] } 1 1 0 1⟩
    let flush := perform (.flush 0 true)
    let drained := flush.finalState (flush.finalState ((perform .acquire).finalState start))
    let last := flush.finalState ((perform .acquire).finalState drained)
    CommandPool.create { memoryTypes := [] } 1 1 0 0 m = .ok start.pool start.machine ∧ Usage start last ∧
      last.machine.FencesSpent := by
  intro m start flush drained last
  have created : CommandPool.create { memoryTypes := [] } 1 1 0 0 m = .ok _ _ := rfl
  have usage : Usage start last := by
    refine .performed _ (.performed _ (.performed _ (.performed _ (.performed _ .start ?_) ?_) ?_) ?_) ?_ <;>
      decide +kernel
  exact ⟨created, usage, (fencesSpent_of_usage created usage).1⟩

end Session

end CopyBench
