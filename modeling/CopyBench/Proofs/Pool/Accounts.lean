import CopyBench.Proofs.Pool.Lifecycle
import CopyBench.Proofs.Trace.Ledger
/-!
# Recorded work is executed once

The ledger of a session's events agrees with its machine: each slot holds what the ledger says, and
the bytes are those after the executed copies, one after another in the ledger's order. So no copy is
lost or executed twice, and only a begin of an executable slot discards copies.
-/

namespace CopyBench.Session

open CopyBench.Action

variable {start s : Session} {events : List Event}

/-! ## The ledger agrees with the machine -/

/-- The command buffers of the pool, in the order of their slots. -/
def commandBuffers (s : Session) : List Handle := s.pool.slots.map (·.commandBuffer)

theorem Path.commandBuffers_eq (path : Path start events s) : s.commandBuffers = start.commandBuffers :=
  path.pool_eq.2.2.2

theorem mem_commandBuffers {index : Nat} {slot : Slot} (hslot : s.pool.slots[index]? = some slot) :
    slot.commandBuffer ∈ s.commandBuffers :=
  List.mem_map_of_mem (List.mem_of_getElem? hslot)

/-- Only the command buffers of the slots are recorded into. -/
theorem Path.recordsInto (path : Path start events s) : RecordsInto start.commandBuffers events := by
  induction path with
  | start => exact fun _ _ _ _ h => nomatch h
  | told | turned | settled => assumption
  | queued copy path hslot isOpen sound ih =>
    refine ih.snoc fun b source destination region h => ?_
    cases h
    exact path.commandBuffers_eq ▸ mem_commandBuffers hslot
  | refused _ _ _ _ _ ih | lost _ _ _ _ _ ih | drained _ ih | begun _ _ _ _ ih | ended _ _ _ ih
  | fenced _ ih | submitted _ _ _ _ ih | waited _ _ _ ih | unfenced _ _ ih =>
    exact ih.snoc fun b source destination region h => nomatch h

theorem Path.work_eq (path : Path start events s) (blank : start.Blank) {b : Handle}
    (h : b ∈ start.commandBuffers) :
    s.machine.work b = ((Ledger.of events).held b).map (·.copy) := by
  induction path with
  | start =>
    obtain ⟨slot, hmem, rfl⟩ := List.mem_map.1 h
    exact blank slot hmem
  | told | turned | settled => assumption
  | refused point call code path asks ih | lost point call code path asks ih =>
    rw [Ledger.of_snoc, Ledger.book_failed]
    exact ih
  | drained path ih | fenced path ih | waited _ _ path ih | unfenced _ path ih | ended path _ _ ih =>
    rw [Ledger.of_snoc]
    exact ih
  | begun flags path hslot may ih =>
    rw [Ledger.of_snoc, Machine.work_began]
    simp only [Ledger.book, Ledger.clear]
    split
    · rfl
    · exact ih
  | submitted path hslot ready run ih =>
    rw [Ledger.of_snoc, Machine.work_traced, Machine.work_executed run]
    simp only [Ledger.book, Ledger.clear]
    split
    · rfl
    · exact ih
  | queued copy path hslot isOpen sound ih =>
    rw [Ledger.of_snoc, Machine.work_queued]
    simp only [Ledger.book]
    split
    · simp [ih]
    · exact ih

theorem Path.copiesExecuted_eq (path : Path start events s) (blank : start.Blank) :
    s.machine.counters.copiesExecuted =
      start.machine.counters.copiesExecuted + (Ledger.of events).executed.length := by
  induction path with
  | start => rfl
  | told | turned | settled => assumption
  | refused point call code path asks ih | lost point call code path asks ih =>
    rw [Ledger.of_snoc, Ledger.book_failed]
    exact ih
  | drained path ih | fenced path ih | waited _ _ path ih | unfenced _ path ih | ended path _ _ ih
  | begun _ path _ _ ih | queued _ path _ _ _ ih =>
    rw [Ledger.of_snoc]
    exact ih
  | @submitted _ _ _ m _ _ path hslot ready run ih =>
    obtain ⟨counters, hframe, hcount⟩ := Machine.executed_frame run
    have hwork := path.work_eq blank (path.commandBuffers_eq ▸ mem_commandBuffers hslot)
    change m.counters.copiesExecuted = _
    rw [congrArg Machine.counters hframe, hcount rfl, ih, hwork, Ledger.of_snoc,
      Ledger.executed_book_submit, List.length_append, List.length_map, Nat.add_assoc]

/-- The bytes are those that the executed copies leave, one after another in the ledger's order. -/
theorem Path.memory_eq (path : Path start events s) (blank : start.Blank) :
    (Machine.replay ((Ledger.of events).executed.map (·.copy)) start.machine).2 = none ∧
      Machine.SameMemory (Machine.replay ((Ledger.of events).executed.map (·.copy)) start.machine).1
        s.machine := by
  induction path with
  | start => exact ⟨rfl, rfl, rfl⟩
  | told _ _ ih | turned _ _ _ ih | settled _ _ _ _ ih => exact ⟨ih.1, ih.2.1, ih.2.2⟩
  | refused point call code path asks ih | lost point call code path asks ih =>
    rw [Ledger.of_snoc, Ledger.book_failed]
    exact ⟨ih.1, ih.2.1, ih.2.2⟩
  | drained path ih | fenced path ih | waited _ _ path ih | unfenced _ path ih | ended path _ _ ih
  | begun _ path _ _ ih | queued _ path _ _ _ ih =>
    rw [Ledger.of_snoc]
    exact ⟨ih.1, ih.2.1, ih.2.2⟩
  | @submitted events _ _ m _ _ path hslot ready run ih =>
    have hwork := path.work_eq blank (path.commandBuffers_eq ▸ mem_commandBuffers hslot)
    have hsame := Machine.sameMemory_executed ih.2 run
    rw [Ledger.of_snoc, Ledger.executed_book_submit, List.map_append, Machine.replay_append, ← hwork]
    rcases hfirst : Machine.replay ((Ledger.of events).executed.map (·.copy)) start.machine with ⟨m₀, cause⟩
    rw [hfirst] at ih hsame ⊢
    obtain ⟨rfl, -⟩ := ih
    exact ⟨hsame.2, hsame.1.bindings, hsame.1.memories⟩

/-! ## Slots and what they hold -/

theorem InStep.holds_iff {slot : Slot} (h : InStep events slot) :
    (phase events slot.commandBuffer).holds = true ↔
      slot.state = .recording ∨ slot.state = .executable := by
  rw [h.recording, h.executable]
  cases phase events slot.commandBuffer <;> simp [Phase.holds]

/-- A slot that is open or ended holds what it was given since it was begun; others hold nothing. -/
theorem InStep.held {slot : Slot} (h : InStep events slot) (lawful : Lawful events) :
    if slot.state = .recording ∨ slot.state = .executable then
      ((Ledger.of events).held slot.commandBuffer).map (·.copy) = sinceBegin events slot.commandBuffer
    else (Ledger.of events).held slot.commandBuffer = [] := by
  have hheld := held_of_lawful lawful slot.commandBuffer
  split
  case isTrue hopen => rwa [if_pos (h.holds_iff.2 hopen)] at hheld
  case isFalse hclosed => rwa [if_neg fun hholds => hclosed (h.holds_iff.1 hholds)] at hheld

theorem Quiet.discarded_eq {more : List Event} (quiet : Quiet more) :
    (Ledger.of (events ++ more)).discarded = (Ledger.of events).discarded := by
  induction more using List.reverseRecOn with
  | nil => rw [List.append_nil]
  | append_singleton more event ih =>
    have ih := ih fun b flags hmem => quiet b flags (List.mem_append_left _ hmem)
    rw [← List.append_assoc, Ledger.of_snoc, ← ih]
    obtain ⟨b, flags, rfl⟩ | ⟨queue, b, fence, rfl⟩ | ⟨b, source, destination, region, rfl⟩ | idle :=
      event.cases_ledger
    · exact absurd (List.mem_append_right _ List.mem_cons_self) (quiet b flags)
    · rfl
    · rfl
    · rw [idle.book]

/-- A begin that succeeds discards what an executable slot holds, and nothing else. -/
theorem Begins.discarded_eq {index : Nat} {b : Handle} {s' : Session}
    (h : Begins start events s index b s') (distinct : start.Distinct)
    (idle : ∀ slot ∈ start.pool.slots, slot.state = .idle) :
    ∃ more, Path start (events ++ more) s' ∧
      ((Ledger.of (events ++ more)).discarded = (Ledger.of events).discarded ∨
        (∃ slot, s.pool.slots[index]? = some slot ∧ slot.state = .executable ∧ slot.commandBuffer = b) ∧
          (Ledger.of (events ++ more)).discarded =
            (Ledger.of events).discarded ++ (Ledger.of events).held b) := by
  obtain ⟨more, s₀, slot, flags, path, quiet, hslot, may, rfl, direct, rfl⟩ := h
  refine ⟨more ++ [_], List.append_assoc .. ▸ path.begun flags hslot may, ?_⟩
  rw [← List.append_assoc, Ledger.of_snoc, Ledger.discarded_book_begin, quiet.discarded_eq]
  obtain ⟨lawful, inStep⟩ := path.inStep distinct idle
  by_cases ready : slot.state = .executable
  · obtain ⟨rfl, hslot'⟩ := direct ready
    exact .inr ⟨⟨slot, hslot', ready, rfl⟩, by rw [List.append_nil]⟩
  · have hheld := (inStep index slot hslot).held lawful
    rw [if_neg (not_or.2 ⟨may.1, ready⟩)] at hheld
    exact .inl (by rw [hheld, List.append_nil])

/-! ## From the making of a pool on -/

/-- The ledger of the events since an earlier session. -/
def ledger (start s : Session) : Ledger := .of (since start s)

/-- Whether a request that was answered `r` began the executable slot of a command buffer. -/
def BeganExecutable (s : Session) (operation : PoolOperation) (r : Except Failure PoolReply)
    (b : Handle) : Prop :=
  ∃ index slot, s.pool.slots[index]? = some slot ∧ slot.state = .executable ∧ slot.commandBuffer = b ∧
    ((∃ flags, operation = .begin index flags) ∧ r = .ok (.commandBuffer b) ∨
      operation = .acquire ∧ index = s.pool.cursor ∧ r = .ok (.acquired index b))

/-- The account that a pool gives of the copies recorded into its slots. -/
structure Accounted (start s : Session) : Prop where
  numbers : (ledger start s).entries.map (·.number) = List.range (ledger start s).entries.length
  /-- The copies held, those executed and those discarded are the recorded ones, each of them once. -/
  once : ((s.pool.slots.flatMap fun slot => (ledger start s).held slot.commandBuffer) ++
    (ledger start s).executed ++ (ledger start s).discarded).Perm (ledger start s).entries
  /-- The first submission or begin of its command buffer that succeeds decides where a copy is. -/
  placed : ∀ before later b copy, since start s =
      before ++ ⟨.copyBuffer b copy.source copy.destination copy.region, .done⟩ :: later →
    (Ledger.of before).next copy ∈ (ledger start s).place b (fate b later)
  work : ∀ slot ∈ s.pool.slots,
    s.machine.work slot.commandBuffer = ((ledger start s).held slot.commandBuffer).map (·.copy)
  opened : ∀ slot ∈ s.pool.slots, slot.state = .recording ∨ slot.state = .executable →
    s.machine.work slot.commandBuffer = sinceBegin (since start s) slot.commandBuffer
  closed : ∀ slot ∈ s.pool.slots, slot.state = .idle ∨ slot.state = .pending →
    s.machine.work slot.commandBuffer = []
  /-- The memories are those after the executed copies, executed in the ledger's order. -/
  bytes : s.machine.memories =
    (Machine.replay ((ledger start s).executed.map (·.copy)) start.machine).1.memories
  count : s.machine.counters.copiesExecuted =
    start.machine.counters.copiesExecuted + (ledger start s).executed.length
  /-- Copies are discarded by a begin of an executable slot that succeeds, and by nothing else. -/
  discards : ∀ operation, (perform operation).Ends s fun r s' =>
    (ledger start s').discarded = (ledger start s).discarded ∨
      ∃ b, BeganExecutable s operation r b ∧
        (ledger start s').discarded = (ledger start s).discarded ++ (ledger start s).held b

theorem ends_discarded (path : Path start events s) (sound : start.Sound) (distinct : start.Distinct)
    (idle : ∀ slot ∈ start.pool.slots, slot.state = .idle) (operation : PoolOperation) :
    (perform operation).Ends s fun r s' =>
      (ledger start s').discarded = (Ledger.of events).discarded ∨
        ∃ b, BeganExecutable s operation r b ∧
          (ledger start s').discarded = (Ledger.of events).discarded ++ (Ledger.of events).held b := by
  refine (walk_perform path sound operation).mono fun r s' h => ?_
  rcases h with ⟨-, more, path, quiet⟩ | ⟨index, b, begins, reply⟩
  · exact .inl (by rw [ledger, path.since_eq, quiet.discarded_eq])
  · obtain ⟨more, path, h | ⟨⟨slot, hslot, ready, hb⟩, h⟩⟩ := begins.discarded_eq distinct idle
    · exact .inl (by rw [ledger, path.since_eq, h])
    · exact .inr ⟨b, ⟨index, slot, hslot, ready, hb, reply⟩, by rw [ledger, path.since_eq, h]⟩

/-- Every session that follows the making of a pool accounts for the copies recorded on the way, when
nothing waited under unused numbers before. -/
theorem accounted_of_reach {device : Device} {queue : Handle} {depth : Nat} {family : UInt32}
    {level : Int} {m m' : Machine} {pool : CommandPool}
    (created : CommandPool.create device queue depth family level m = .ok pool m')
    (unused : ∀ b, m.lastHandle < b → m.work b = []) (reach : Reach ⟨m', pool⟩ s) :
    Accounted ⟨m', pool⟩ s := by
  obtain ⟨idle, distinct⟩ := CommandPool.slots_of_create created
  have sound := sound_of_idle (s := ⟨m', pool⟩) idle
  have blank : Blank ⟨m', pool⟩ := fun slot hmem => by
    obtain ⟨hnew, hwork⟩ := CommandPool.work_of_create created hmem
    exact hwork.trans (unused _ hnew)
  obtain ⟨events, path⟩ := reach.path sound
  obtain ⟨lawful, inStep⟩ := path.inStep distinct idle
  have work (slot) (hmem : slot ∈ s.pool.slots) :
      s.machine.work slot.commandBuffer = ((Ledger.of events).held slot.commandBuffer).map (·.copy) :=
    path.work_eq blank (path.commandBuffers_eq ▸ List.mem_map_of_mem hmem)
  have each (slot) (hmem : slot ∈ s.pool.slots) : InStep events slot := by
    obtain ⟨index, hslot⟩ := List.getElem?_of_mem hmem
    exact inStep index slot hslot
  have hledger : ledger ⟨m', pool⟩ s = .of events := congrArg Ledger.of path.since_eq
  constructor
  case numbers => exact hledger ▸ Ledger.numbers events
  case once =>
    have into : RecordsInto s.commandBuffers events := path.commandBuffers_eq ▸ path.recordsInto
    have h := Ledger.perm_entries (path.distinct distinct) into
    rw [hledger]
    rwa [Ledger.heldIn, List.flatMap_map] at h
  case placed =>
    intro before later b copy hsplit
    rw [ledger, hsplit]
    exact Ledger.mem_place before later b copy
  case work => exact hledger ▸ work
  case opened =>
    intro slot hmem hopen
    have hheld := (each slot hmem).held lawful
    rw [if_pos hopen] at hheld
    rw [work slot hmem, hheld, path.since_eq]
  case closed =>
    intro slot hmem hclosed
    have hheld := (each slot hmem).held lawful
    rw [if_neg (by rcases hclosed with h | h <;> simp [h])] at hheld
    rw [work slot hmem, hheld, List.map_nil]
  case bytes => exact hledger ▸ (path.memory_eq blank).2.memories
  case count => exact hledger ▸ path.copiesExecuted_eq blank
  case discards => exact fun operation => hledger ▸ ends_discarded path sound distinct idle operation

/-- The machine with a first buffer, of four bytes. -/
def withBuffer (m : Machine) : Machine :=
  { m with
    lastHandle := 2
    bindings := m.bindings.insert 1 2
    memories := m.memories.insert 2 (Bytes.constant 4 0) }

/-- Of the pool of two command buffers that this machine makes, one is acquired, given a copy of the
buffer onto itself, and flushed. -/
theorem accounted_after_flush :
    let start : Session := ⟨CommandPool.created (withBuffer {}) { memoryTypes := [] } 2 0 0,
      CommandPool.fresh { memoryTypes := [] } 1 2 0 3⟩
    let opened := (perform .acquire).finalState start
    let recorded := (onMachine (Machine.copyBuffer 4 1 1 ⟨0, 0, 4⟩)).finalState opened
    CommandPool.create { memoryTypes := [] } 1 2 0 0 (withBuffer {}) = .ok start.pool start.machine ∧
      Accounted start ((perform (.flush 0 true)).finalState recorded) := by
  intro start opened recorded
  have created : CommandPool.create { memoryTypes := [] } 1 2 0 0 (withBuffer {}) = .ok _ _ := rfl
  have hslot : opened.pool.slots[0]? = some ⟨4, .recording⟩ := rfl
  have canCopy : opened.machine.CanCopy ⟨1, 1, 0, 0, 4⟩ := by
    refine ⟨2, 2, Bytes.constant 4 0, Bytes.constant 4 0, rfl, rfl, rfl, rfl, ?_, ?_⟩ <;>
      rw [Bytes.size_constant] <;> rfl
  have reach : Reach start recorded := .record ⟨1, 1, 0, 0, 4⟩ (.perform .acquire .start) hslot rfl canCopy
  exact ⟨created, accounted_of_reach created (fun b _ => rfl) (.perform (.flush 0 true) reach)⟩

end CopyBench.Session
