import CopyBench.Proofs.Pool.Accounts
import CopyBench.Proofs.Pool.Rounds
import CopyBench.Proofs.Trace.Taken
/-!
# Repeating a flush until it succeeds

A flush that failed can be asked for again. However often that happens and whichever calls failed, the
repetitions together are one round of flushes that succeeds. They come to what a single flush would have
come to if nothing had failed: the same slots, the same copies in the same order, and the same memory.
-/

namespace CopyBench

open CopyBench.Action

/-- An action that is repeated until it first succeeds, which it does after `n` failures. -/
inductive Action.Retried {σ α : Type} (act : Action σ α) : Nat → σ → α → σ → Prop where
  | done {s a s'} (run : act s = .ok a s') : Retried act 0 s a s'
  | again {n s f s₁ a s'} (run : act s = .error f s₁) (rest : Retried act n s₁ a s') :
    Retried act (n + 1) s a s'

/-- The machine, but from now on nothing fails. -/
def Machine.unfailing (m : Machine) : Machine :=
  { m with schedule := Schedule.reliable, lostSubmits := [], lostWaits := false }

theorem Machine.reliable_unfailing (m : Machine) : m.unfailing.Reliable := ⟨fun _ _ => rfl, rfl, rfl⟩

/-- Whether a request is for a flush. -/
def PoolOperation.isFlush : PoolOperation → Bool
  | .flush _ _ | .flushAll _ => true
  | _ => false

namespace Session

/-- The session, but from now on nothing fails. -/
def unfailing (s : Session) : Session := { s with machine := s.machine.unfailing }

/-- The slots that a request flushes, in order. -/
def flushes (s : Session) : PoolOperation → List Slot
  | .flush index _ => s.pool.slots[index]?.toList
  | .flushAll _ => s.pool.slots
  | _ => []

variable {s s' start : Session} {operation : PoolOperation} {events : List Event}

theorem sound_perform (sound : s.Sound) (operation : PoolOperation) :
    (perform operation).Ends s fun _ s' => s'.Sound := by
  refine (path_perform .start sound operation).mono fun r s' h => ?_
  obtain ⟨more, path⟩ := h.2
  exact path.sound sound

/-- Performing a request is a round over `n` slots from `index` on, in every session with `size` slots. -/
def Rounds (operation : PoolOperation) (wait : Bool) (index n size : Nat) : Prop :=
  ∀ s : Session, s.Sound → s.Distinct → s.pool.slots.length = size →
    (perform operation).Ends s fun r s' => (∀ a, r = .ok a → a = .done) ∧
      ∃ more, Round wait index n s more (r.map fun _ => ()) s'

theorem rounds_of_reply {act : Action Session Unit} {wait : Bool} {index n : Nat}
    (h : act.Ends s fun r s' => ∃ more, Round wait index n s more r s') :
    Ends (act >>= fun _ => pure PoolReply.done) s fun r s' => (∀ a, r = .ok a → a = .done) ∧
      ∃ more, Round wait index n s more (r.map fun _ => ()) s' := by
  rw [ends_bind]
  refine h.mono fun r s' h => ?_
  rcases r with f | ⟨⟩
  · exact ⟨nofun, h⟩
  · refine ⟨?_, h⟩
    rintro a ⟨⟩
    rfl

theorem rounds_of_isFlush (flush : operation.isFlush = true) (s : Session) :
    ∃ wait index n, Rounds operation wait index n s.pool.slots.length ∧
      s.flushes operation = (s.pool.slots.drop index).take n := by
  cases operation with
  | flush index wait =>
    refine ⟨wait, index, 1, fun t sound _ _ => rounds_of_reply (ends_flush_round sound index wait), ?_⟩
    rw [flushes, List.take_one, List.head?_drop]
  | flushAll wait =>
    refine ⟨wait, 0, s.pool.slots.length, fun t sound distinct size => rounds_of_reply ?_, ?_⟩
    · exact size ▸ ends_flushAll_round sound distinct wait
    · simp [flushes]
  | _ => cases flush

/-- Repeated until it succeeds, a flush is one round that succeeds. -/
theorem round_of_retried {wait : Bool} {index k size n : Nat} {a : PoolReply}
    (rounds : Rounds operation wait index k size) (retried : Retried (perform operation) n s a s')
    (sound : s.Sound) (distinct : s.Distinct) (length : s.pool.slots.length = size) :
    ∃ more, Round wait index k s more (.ok ()) s' := by
  induction retried with
  | done run =>
    obtain ⟨-, more, round⟩ := (ends_of_ok run).1 (rounds _ sound distinct length)
    exact ⟨more, round⟩
  | again run rest ih =>
    obtain ⟨-, more, round⟩ := (ends_of_error run).1 (rounds _ sound distinct length)
    have sound := (ends_of_error run).1 (sound_perform sound operation)
    obtain ⟨more', round'⟩ := ih sound (round.distinct distinct)
      ((CommandPool.length_of_flushed_eq round.bound).trans length)
    exact ⟨_, round.again distinct round'⟩

/-! ## Ledgers of rounds -/

/-- What the slots hold in the ledger, those do whose copies wait to be submitted. -/
theorem held_waiting {index n : Nat} (lawful : Lawful events) (inStep : AllInStep events s) :
    (s.pool.waiting index n).flatMap (Ledger.of events).held =
      ((s.pool.slots.drop index).take n).flatMap fun slot => (Ledger.of events).held slot.commandBuffer := by
  rw [CommandPool.waiting, List.flatMap_assoc]
  refine List.flatMap_congr fun slot hmem => ?_
  obtain ⟨j, hslot⟩ := List.getElem?_of_mem (List.mem_of_mem_drop (List.mem_of_mem_take hmem))
  have held := (inStep j slot hslot).held lawful
  rw [Slot.waiting]
  cases hstate : slot.state.holds with
  | true => simp
  | false =>
    rw [if_neg fun h => by rw [SlotState.holds_iff.2 h] at hstate; cases hstate] at held
    simp [held]

/-- A round that succeeds executes what the ledger says its slots hold, slot after slot. -/
theorem Round.executed_eq {u : Session} {wait : Bool} {index n : Nat} {more : List Event}
    (round : Round wait index n u more (.ok ()) s') (path : Path start events s) (distinct : s.Distinct)
    (lawful : Lawful events) (inStep : AllInStep events s) (pool : u.pool = s.pool)
    (trace : u.machine.trace = s.machine.trace) :
    (ledger start s').executed = (Ledger.of events).executed ++
      ((s.pool.slots.drop index).take n).flatMap fun slot => (Ledger.of events).held slot.commandBuffer := by
  have since_eq : since start s' = events ++ more := by
    refine since_of_trace_eq ?_
    rw [round.machine.trace, trace, path.trace_eq, List.append_assoc]
  have once : (submitted more).Nodup := by
    rw [round.submitted_eq, pool]
    exact (s.pool.waiting_sublist index n).nodup distinct
  rw [ledger, since_eq, Ledger.of_delivered events (fun event h => (round.delivers event h).1) once,
    round.submitted_eq, pool, held_waiting lawful inStep]

/-! ## From the making of a pool on -/

/-- What repeating a flush in `s` until it succeeded has come to in `s'`. -/
structure Redone (start s : Session) (operation : PoolOperation) (s' : Session) : Prop where
  /-- A single flush, if nothing failed from `s` on, would come to the same. -/
  single : ∃ t, perform operation s.unfailing = .ok .done t ∧ t.pool = s'.pool ∧
    (ledger start t).executed = (ledger start s').executed ∧ t.machine.memories = s'.machine.memories
  /-- All attempts together submit the slots that had copies waiting, each of them once. -/
  submitted : submitted (since s s') = (s.flushes operation).flatMap Slot.waiting
  /-- They execute the copies that the flushed slots held, slot after slot. -/
  executed : (ledger start s').executed = (ledger start s).executed ++
    (s.flushes operation).flatMap fun slot => (ledger start s).held slot.commandBuffer
  /-- No copy is executed twice. -/
  nodup : (ledger start s').executed.Nodup

/-- In every session that follows the making of a pool, a flush of one slot or of all can be repeated
until it succeeds. -/
theorem redone_of_retried {device : Device} {queue : Handle} {depth : Nat} {family : UInt32}
    {level : Int} {m m' : Machine} {pool : CommandPool}
    (created : CommandPool.create device queue depth family level m = .ok pool m')
    (reach : Reach ⟨m', pool⟩ s) (flush : operation.isFlush = true) {n : Nat} {reply : PoolReply}
    (retried : Retried (perform operation) n s reply s') : Redone ⟨m', pool⟩ s operation s' := by
  obtain ⟨idle, distinct⟩ := CommandPool.slots_of_create created
  have sound := sound_of_idle (s := ⟨m', pool⟩) idle
  obtain ⟨events, path⟩ := reach.path sound
  obtain ⟨lawful, inStep⟩ := path.inStep distinct idle
  have sound := path.sound sound
  have distinct := path.distinct distinct
  have hledger : ledger ⟨m', pool⟩ s = .of events := congrArg Ledger.of path.since_eq
  obtain ⟨wait, index, k, rounds, covers⟩ := rounds_of_isFlush flush s
  obtain ⟨more, round⟩ := round_of_retried rounds retried sound distinct rfl
  have executed := round.executed_eq path distinct lawful inStep rfl rfl
  refine ⟨?_, ?_, ?_, ?_⟩
  · have sound' : s.unfailing.Sound := Path.Sound.frame sound rfl rfl ⟨rfl, fun _ => rfl⟩
    refine Ends.elim (((rounds s.unfailing sound' distinct rfl).and (ends_eq_ok ..)).mono
      fun r t h => ?_)
    obtain ⟨⟨done, more', round'⟩, run⟩ := h
    have works := round'.works s.machine.reliable_unfailing (round.has rfl)
    rcases r with f | a
    · cases works
    have ha := done a rfl
    subst ha
    refine ⟨t, run _ rfl, ?_, ?_, ?_⟩
    · rw [round'.reached rfl, round.reached rfl]
      rfl
    · rw [round'.executed_eq path distinct lawful inStep rfl rfl, executed]
    · -- Both execute the same copies from the same bytes.
      obtain ⟨m₁, replayed, same⟩ := round.machine.bytes
      obtain ⟨m₂, replayed', same'⟩ := round'.machine.bytes
      have start : Machine.SameMemory s.machine s.unfailing.machine := ⟨rfl, rfl⟩
      have memory := (start.replay ((s.pool.waiting index k).flatMap s.machine.work)).1
      rw [round.submitted_eq] at replayed
      rw [round'.submitted_eq] at replayed'
      change Machine.replay ((s.pool.waiting index k).flatMap s.machine.work) _ = _ at replayed'
      rw [replayed, replayed'] at memory
      rw [same'.memories, memory.memories, ← same.memories]
  · rw [since_of_trace_eq round.machine.trace, round.submitted_eq, CommandPool.waiting, covers]
  · rw [hledger, executed, covers]
  · have nodup := Ledger.nodup_places (since ⟨m', pool⟩ s')
    exact (List.nodup_append.1 (List.nodup_append.1 nodup).1).2.1

/-- A pool whose first submission fails and whose second is not confirmed: one copy is recorded, and the
flush that waits for it succeeds the third time. -/
theorem redone_after_two_failures :
    let rules : List FaultRule := [{ point := .queueSubmit }, { point := .waitForFence }]
    let m : Machine := withBuffer { schedule := .ofRules rules }
    let start : Session := ⟨CommandPool.created m { memoryTypes := [] } 2 0 0,
      CommandPool.fresh { memoryTypes := [] } 1 2 0 3⟩
    let opened := (perform .acquire).finalState start
    let recorded := (onMachine (Machine.copyBuffer 4 1 1 ⟨0, 0, 4⟩)).finalState opened
    let flush := perform (.flush 0 true)
    let last := flush.finalState (flush.finalState (flush.finalState recorded))
    CommandPool.create { memoryTypes := [] } 1 2 0 0 m = .ok start.pool start.machine ∧
      Retried flush 2 recorded .done last ∧ Redone start recorded (.flush 0 true) last := by
  intro rules m start opened recorded flush last
  have created : CommandPool.create { memoryTypes := [] } 1 2 0 0 m = .ok _ _ := rfl
  have hslot : opened.pool.slots[0]? = some ⟨4, .recording⟩ := rfl
  have canCopy : opened.machine.CanCopy ⟨1, 1, 0, 0, 4⟩ := by
    refine ⟨2, 2, Bytes.constant 4 0, Bytes.constant 4 0, rfl, rfl, rfl, rfl, ?_, ?_⟩ <;>
      rw [Bytes.size_constant] <;> rfl
  have reach : Reach start recorded := .record ⟨1, 1, 0, 0, 4⟩ (.perform .acquire .start) hslot rfl canCopy
  have retried : Retried flush 2 recorded .done last := by
    obtain ⟨_, first⟩ : ∃ f, flush recorded = .error f _ := exists_eq_error (by decide +kernel)
    obtain ⟨_, second⟩ : ∃ f, flush (flush.finalState recorded) = .error f _ :=
      exists_eq_error (by decide +kernel)
    exact .again first (.again second (.done (eq_ok_of_value (by decide +kernel))))
  exact ⟨created, retried, redone_of_retried created reach rfl retried⟩

end Session

end CopyBench
