import CopyBench.Proofs.Buffer.Calls
/-!
# Copies through a pool

On a reliable machine a pool that has nothing left to submit executes a copy when it is asked to, and
has nothing left to submit afterwards. Which slot is used, and whether its queue had to be drained
first, does not show in the bytes.
-/

namespace CopyBench

open CopyBench.Action

namespace Machine

/-- Machines that differ in nothing a copy depends on or changes. -/
structure Alike (m m' : Machine) : Prop extends SameSetting m m', SameMemory m m' where
  copiesExecuted : m'.counters.copiesExecuted = m.counters.copiesExecuted
  lastHandle : m.lastHandle ≤ m'.lastHandle

theorem Alike.trans {m₁ m₂ m₃ : Machine} (h : Alike m₁ m₂) (h' : Alike m₂ m₃) : Alike m₁ m₃ :=
  ⟨h.toSameSetting.trans h'.toSameSetting, h.toSameMemory.trans h'.toSameMemory,
    h'.copiesExecuted.trans h.copiesExecuted, Nat.le_trans h.lastHandle h'.lastHandle⟩

section Calls

variable (m : Machine) (b fence : Handle) (flags : UInt32) (timeout : UInt64) (copy : RecordedCopy)

theorem alike_told (note : Note) : Alike m (Console.tell note m) :=
  ⟨⟨rfl, rfl, rfl, rfl⟩, ⟨rfl, rfl⟩, rfl, Nat.le_refl _⟩

theorem alike_traced (call : Call) (reply : Reply) : Alike m (m.traced call reply) :=
  ⟨⟨rfl, rfl, rfl, rfl⟩, ⟨rfl, rfl⟩, rfl, Nat.le_refl _⟩

theorem alike_began : Alike m (m.began b flags) :=
  ⟨⟨rfl, rfl, rfl, rfl⟩, ⟨rfl, rfl⟩, rfl, Nat.le_refl _⟩

theorem alike_ended : Alike m (m.ended b) := ⟨⟨rfl, rfl, rfl, rfl⟩, ⟨rfl, rfl⟩, rfl, Nat.le_refl _⟩

theorem alike_drained : Alike m (m.drained b) :=
  ⟨⟨rfl, rfl, rfl, rfl⟩, ⟨rfl, rfl⟩, rfl, Nat.le_refl _⟩

theorem alike_fenced : Alike m m.fenced := ⟨⟨rfl, rfl, rfl, rfl⟩, ⟨rfl, rfl⟩, rfl, Nat.le_succ _⟩

theorem alike_waited : Alike m (m.waited fence timeout) :=
  ⟨⟨rfl, rfl, rfl, rfl⟩, ⟨rfl, rfl⟩, rfl, Nat.le_refl _⟩

theorem alike_unfenced : Alike m (m.unfenced fence) :=
  ⟨⟨rfl, rfl, rfl, rfl⟩, ⟨rfl, rfl⟩, rfl, Nat.le_refl _⟩

theorem alike_queued : Alike m (m.queued b copy) :=
  ⟨⟨rfl, rfl, rfl, rfl⟩, ⟨rfl, rfl⟩, rfl, Nat.le_refl _⟩

end Calls

theorem sameSetting_copied {m m' : Machine} {copy : RecordedCopy} (h : m.copied copy = .ok m') :
    SameSetting m m' := by
  rw [copied_frame h]
  exact ⟨rfl, rfl, rfl, rfl⟩

/-- Machines that are alike stay so when a copy is executed on both. -/
theorem Alike.copied {m₁ m₂ m₁' : Machine} {copy : RecordedCopy} (h : Alike m₁ m₂)
    (run : m₁.copied copy = .ok m₁') : ∃ m₂', m₂.copied copy = .ok m₂' ∧ Alike m₁' m₂' := by
  obtain ⟨cause, h₁, -⟩ | ⟨m, m₂', h₁, h₂, hsame⟩ := h.toSameMemory.copied copy
  · cases run.symm.trans h₁
  · cases run.symm.trans h₁
    have hframe := copied_frame h₁
    have hframe₂ := copied_frame h₂
    have setting : SameSetting m₁' m₂' := by
      rw [hframe, hframe₂]
      exact ⟨h.profile, h.schedule, h.lostSubmits, h.lostWaits⟩
    refine ⟨m₂', h₂, setting, hsame, ?_, ?_⟩
    · rw [hframe, hframe₂]
      exact congrArg (· + 1) h.copiesExecuted
    · rw [hframe, hframe₂]
      exact h.lastHandle

/-- A submission of one copy does what the copy does. -/
theorem Alike.executed {m m₂ m' : Machine} {b : Handle} {fence : Option Handle} {cause : Option Panic}
    {copy : RecordedCopy} (hwork : m.work b = [copy]) (hcopied : m.copied copy = .ok m₂)
    (run : m.executed b fence = (m', cause)) : Alike m₂ m' := by
  have hreplay : replay (m.work b) m = (m₂, none) := by
    rw [hwork, replay, hcopied]
    rfl
  obtain ⟨hsame, hcause⟩ := sameMemory_executed ⟨rfl, rfl⟩ run
  rw [hreplay] at hsame hcause
  obtain ⟨counters, hframe, hcount⟩ := executed_frame run
  have hframe₂ := copied_frame hcopied
  have setting : SameSetting m₂ m' := by
    rw [hframe, hframe₂]
    exact ⟨rfl, rfl, rfl, rfl⟩
  have hlast : m₂.lastHandle = m'.lastHandle := by
    rw [hframe, hframe₂]
    rfl
  refine ⟨setting, hsame, ?_, Nat.le_of_eq hlast⟩
  rw [hframe, hframe₂, hcount hcause.symm, hwork]
  rfl

end Machine

namespace Session

variable {s : Session} {copy : RecordedCopy} {m₂ : Machine}

/-! ## Submitting a slot -/

/-- A submission through any device executes the copy that waits. -/
theorem ends_queueSubmit_ok {m : Machine} (reliable : m.Reliable) (device : Device) (queue : Handle)
    {b : Handle} (fence : Option Handle) (live : ∀ f, fence = some f → f ∈ m.liveFences)
    (hwork : m.work b = [copy]) (hcopied : m.copied copy = .ok m₂)
    (Q : Except Failure (Except ResultCode Unit) → Machine → Prop) :
    Ends (device.queueSubmit queue b fence) m Q ↔
      Q (.ok (.ok ())) ((m.executed b fence).1.traced (.queueSubmit queue b fence) .done) := by
  have sound : ∀ copy' ∈ m.work b, m.CanCopy copy' := by
    intro copy' hmem
    rw [hwork, List.mem_singleton] at hmem
    exact hmem ▸ Machine.canCopy_of_copied hcopied
  rw [Machine.ends_submission _ _ _ _ _ live sound, reliable.fault]
  dsimp only
  rw [if_neg (by simp [reliable.lostSubmits])]

/-- What a submission of slot `index` leaves behind. -/
structure Submitted (s : Session) (index : Nat) (b : Handle) (m₂ : Machine) (s' : Session) : Prop where
  alike : m₂.Alike s'.machine
  work : ∀ b', s'.machine.work b' = if b' = b then [] else s.machine.work b'
  pool : ∃ state, (state = .idle ∨ state = .pending) ∧ s'.pool = s.pool.setState index state

theorem ends_submit_ok (reliable : s.machine.Reliable) (index : Nat) {b : Handle}
    (hwork : s.machine.work b = [copy]) (hcopied : s.machine.copied copy = .ok m₂) :
    (submit index b).Ends s fun r s' => r = .ok () ∧ Submitted s index b m₂ s' := by
  rw [submit, ends_bind, ends_getPool]
  dsimp only
  rw [ends_bind, ends_orOperational, ends_lift, ends_queueSubmit_ok reliable _ _ none nofun hwork hcopied]
  rcases hrun : s.machine.executed b none with ⟨m, cause⟩
  refine ⟨rfl, (Machine.Alike.executed hwork hcopied hrun).trans (Machine.alike_traced ..),
    fun b' => ?_, .pending, .inr rfl, rfl⟩
  exact Machine.work_executed hrun b'

/-- A wait for a fence that is live ends with the slot idle. -/
theorem ends_awaitFence_ok (reliable : s.machine.Reliable) (index : Nat) {fence : Handle}
    (live : fence ∈ s.machine.liveFences) (Q : Except Failure Unit → Session → Prop) :
    (awaitFence index fence).Ends s Q ↔
      Q (.ok ()) ⟨(s.machine.waited fence fenceTimeout).unfenced fence, s.pool.setState index .idle⟩ := by
  rw [awaitFence, ends_bind, ends_lift, Machine.ends_waitForFence _ _ _ live, reliable.fault]
  dsimp only
  rw [if_neg (by simp [reliable.lostWaits])]
  exact Iff.rfl

theorem ends_submitAndWait_ok (reliable : s.machine.Reliable) (index : Nat) {b : Handle}
    (hwork : s.machine.work b = [copy]) (hcopied : s.machine.copied copy = .ok m₂) :
    (submitAndWait index b).Ends s fun r s' => r = .ok () ∧ Submitted s index b m₂ s' := by
  have hfenced := Machine.alike_fenced s.machine
  obtain ⟨m₂', hcopied', halike'⟩ := hfenced.copied hcopied
  have live : ∀ f, some (s.machine.lastHandle + 1) = some f → f ∈ s.machine.fenced.liveFences := by
    intro f hf
    cases hf
    exact List.mem_cons_self
  rw [ends_submitAndWait, reliable.fault]
  dsimp only
  rw [submitFenced, ends_bind, ends_getPool]
  dsimp only
  rw [ends_bind, ends_recover, ends_lift, ends_orOperational, ends_queueSubmit_ok
    (reliable.of_same hfenced.toSameSetting) _ _ (some _) live hwork hcopied']
  rcases hrun : s.machine.fenced.executed b (some (s.machine.lastHandle + 1)) with ⟨m, cause⟩
  have hwork' : s.machine.fenced.work b = [copy] := hwork
  have halike := halike'.trans (Machine.Alike.executed hwork' hcopied' hrun)
  have reliable' := reliable.of_same
    ((Machine.sameSetting_copied hcopied).trans halike.toSameSetting)
  have live' : s.machine.lastHandle + 1 ∈ m.liveFences :=
    Machine.liveFences_executed hrun ▸ List.mem_cons_self
  dsimp only
  rw [ends_bind, ends_setState]
  dsimp only
  rw [ends_awaitFence_ok (reliable'.of_same (Machine.alike_traced m _ _).toSameSetting) index live']
  refine ⟨rfl, ?_, fun b' => ?_, .idle, .inl rfl, ?_⟩
  · exact ((halike.trans (Machine.alike_traced ..)).trans (Machine.alike_waited ..)).trans
      (Machine.alike_unfenced ..)
  · exact Machine.work_executed hrun b'
  · exact setState_setState ..

/-- Ending and submitting a slot executes the copy that was recorded. -/
theorem ends_flush_ok (reliable : s.machine.Reliable) {index : Nat} {slot : Slot}
    (hslot : s.pool.slots[index]? = some slot) (isOpen : slot.state = .recording)
    (hwork : s.machine.work slot.commandBuffer = [copy]) (hcopied : s.machine.copied copy = .ok m₂)
    (wait : Bool) :
    (flush index wait).Ends s fun r s' => r = .ok () ∧ Submitted s index slot.commandBuffer m₂ s' := by
  have hended := Machine.alike_ended s.machine slot.commandBuffer
  obtain ⟨m₂', hcopied', halike⟩ := hended.copied hcopied
  have reliable' := reliable.of_same hended.toSameSetting
  let t : Session := ⟨s.machine.ended slot.commandBuffer, s.pool.setState index .executable⟩
  have hsubmitted {s' : Session} (h : Submitted t index slot.commandBuffer m₂' s') :
      Submitted s index slot.commandBuffer m₂ s' := by
    obtain ⟨state, hstate, hpool⟩ := h.pool
    exact ⟨halike.trans h.alike, h.work, state, hstate, hpool.trans (setState_setState ..)⟩
  rw [ends_flush_open s hslot isOpen, reliable.fault]
  dsimp only
  rw [ends_ite]
  split
  · exact (ends_submitAndWait_ok (s := t) reliable' index hwork hcopied').mono fun r s' h =>
      ⟨h.1, hsubmitted h.2⟩
  · exact (ends_submit_ok (s := t) reliable' index hwork hcopied').mono fun r s' h =>
      ⟨h.1, hsubmitted h.2⟩

/-! ## Opening a slot -/

theorem ends_drain_ok (reliable : s.machine.Reliable) (Q : Except Failure Unit → Session → Prop) :
    drain.Ends s Q ↔ Q (.ok ()) { s with machine := s.machine.drained s.pool.queue } := by
  rw [ends_drain, reliable.fault]

/-- Opening a slot that is at rest or in flight changes no bytes, and drops nothing. -/
theorem ends_begin_ok (reliable : s.machine.Reliable) {index : Nat} {slot : Slot}
    (hslot : s.pool.slots[index]? = some slot) (settled : slot.state = .idle ∨ slot.state = .pending)
    (hwork : s.machine.work slot.commandBuffer = []) (flags : UInt32) :
    (begin index flags).Ends s fun r s' => r = .ok slot.commandBuffer ∧
      s.machine.Alike s'.machine ∧ (∀ b, s'.machine.work b = s.machine.work b) ∧
        s'.pool = s.pool.setState index .recording := by
  have work_eq (m : Machine) (h : m.recorded = s.machine.recorded) (b : Handle) :
      (m.began slot.commandBuffer flags).work b = s.machine.work b := by
    have hm : m.work b = s.machine.work b := by rw [Machine.work, h, Machine.work]
    rw [Machine.work_began, hm]
    split
    case isTrue heq => rw [heq, hwork]
    case isFalse => rfl
  rw [ends_begin, hslot]
  dsimp only
  rcases settled with hidle | hpending
  · rw [hidle]
    dsimp only
    rw [ends_startRecording, reliable.fault]
    exact ⟨rfl, Machine.alike_began .., work_eq _ rfl, rfl⟩
  · rw [hpending]
    dsimp only
    -- The queue is waited for first, which no byte shows.
    generalize ht : Console.tell _ s = t
    have htold : s.machine.Alike t.machine := ht ▸ Machine.alike_told ..
    have hrecorded : t.machine.recorded = s.machine.recorded := ht ▸ rfl
    have hopened : t.pool.setState index .recording = s.pool.setState index .recording := ht ▸ rfl
    have hdrained := htold.trans (Machine.alike_drained _ t.pool.queue)
    rw [ends_drain_ok (reliable.of_same htold.toSameSetting)]
    dsimp only
    rw [ends_startRecording, (reliable.of_same hdrained.toSameSetting).fault]
    exact ⟨rfl, hdrained.trans (Machine.alike_began ..), work_eq _ hrecorded, hopened⟩

/-- Nothing fails, and the pool has nothing left to submit. -/
structure Ready (s : Session) : Prop where
  reliable : s.machine.Reliable
  cursor : s.pool.cursor < s.pool.slots.length
  settled : ∀ slot ∈ s.pool.slots, slot.state = .idle ∨ slot.state = .pending
  blank : s.Blank
  autoFlushes : s.pool.autoFlushes = 0

/-- The next slot can be had, without flushing anything. -/
theorem ends_acquire_ok (ready : s.Ready) :
    acquire.Ends s fun r s' => ∃ slot, s.pool.slots[s.pool.cursor]? = some slot ∧
      r = .ok (s.pool.cursor, slot.commandBuffer) ∧ s.machine.Alike s'.machine ∧
        (∀ b, s'.machine.work b = s.machine.work b) ∧
          s'.pool = (turned s.pool).setState s.pool.cursor .recording := by
  have hslot := List.getElem?_eq_getElem ready.cursor
  have hmem := List.getElem_mem ready.cursor
  rw [ends_acquire]
  have hbegin := ends_begin_ok (s := { s with pool := turned s.pool }) ready.reliable hslot
    (ready.settled _ hmem) (ready.blank _ hmem) simultaneousUse
  refine hbegin.mono fun r s' h => ?_
  obtain ⟨rfl, halike, hwork, hpool⟩ := h
  exact ⟨_, hslot, rfl, halike, hwork, hpool⟩

/-- A slot that was opened, copied into and submitted leaves a pool ready again. -/
theorem ready_of_submitted {t s' : Session} {slot : Slot} {m : Machine} (ready : s.Ready)
    (hslot : s.pool.slots[s.pool.cursor]? = some slot) (hcopied : s.machine.copied copy = .ok m₂)
    (halike : m₂.Alike s'.machine) (submitted : Submitted t s.pool.cursor slot.commandBuffer m s')
    (hpool : t.pool = (turned s.pool).setState s.pool.cursor .recording)
    (hwork : ∀ b ≠ slot.commandBuffer, t.machine.work b = s.machine.work b) : s'.Ready := by
  obtain ⟨state, hstate, hpool'⟩ := submitted.pool
  rw [hpool, setState_setState] at hpool'
  have hturned : (turned s.pool).slots[s.pool.cursor]? = some slot := hslot
  refine ⟨ready.reliable.of_same ((Machine.sameSetting_copied hcopied).trans halike.toSameSetting),
    ?_, fun slot' hmem => ?_, fun slot' hmem => ?_, ?_⟩
  · rw [hpool', slots_setState, List.length_modify]
    exact Nat.mod_lt _ (Nat.zero_lt_of_lt ready.cursor)
  all_goals try
    obtain ⟨j, hj⟩ := List.mem_iff_getElem?.1 hmem
    rw [hpool'] at hj
    have hcases := slot_setState_cases hturned hj
  · obtain ⟨-, rfl⟩ | ⟨-, hold⟩ := hcases
    · exact hstate
    · exact ready.settled slot' (List.mem_of_getElem? hold)
  · rw [submitted.work]
    split
    case isTrue => rfl
    case isFalse hne =>
      rw [hwork _ hne]
      obtain ⟨-, rfl⟩ | ⟨-, hold⟩ := hcases
      · exact absurd rfl hne
      · exact ready.blank slot' (List.mem_of_getElem? hold)
  · rw [hpool']
    exact ready.autoFlushes

end Session

/-! ## A whole copy -/

/-- A copy of a region that lies in both buffers is executed by its own call, whichever slot of the
ring is next. -/
theorem StagedBuffer.ends_copyFrom_ok {s : Session} (ready : s.Ready) {buffer source : BoundBuffer}
    {region : Region} {m₂ : Machine}
    (hcopied : s.machine.copied ⟨source.handle, buffer.handle, region⟩ = .ok m₂) (wait : Bool) :
    (copyFrom buffer source region wait).Ends s fun r s' => r = .ok () ∧ m₂.Alike s'.machine ∧
      s'.Ready ∧ s'.pool.device = s.pool.device := by
  rw [ends_copyFrom]
  refine (Session.ends_acquire_ok ready).mono fun r s' h => ?_
  obtain ⟨slot, hslot, rfl, halike, hwork, hpool⟩ := h
  have hblank := ready.blank slot (List.mem_of_getElem? hslot)
  have hqueued := halike.trans (Machine.alike_queued _ slot.commandBuffer
    ⟨source.handle, buffer.handle, region⟩)
  obtain ⟨m₂', hcopied', halike'⟩ := hqueued.copied hcopied
  let t : Session := ⟨s'.machine.queued slot.commandBuffer ⟨source.handle, buffer.handle, region⟩, s'.pool⟩
  have hopen : t.pool.slots[s.pool.cursor]? = some { slot with state := .recording } := by
    change s'.pool.slots[_]? = _
    rw [hpool]
    have hturned : (Session.turned s.pool).slots[s.pool.cursor]? = some slot := hslot
    exact Session.slot_setState _ hturned
  have hone : t.machine.work slot.commandBuffer = [⟨source.handle, buffer.handle, region⟩] := by
    change (s'.machine.queued _ _).work _ = _
    rw [Machine.work_queued, if_pos rfl, hwork, hblank, List.nil_append]
  have hflush := Session.ends_flush_ok (s := t) (ready.reliable.of_same hqueued.toSameSetting) hopen rfl
    hone hcopied' wait
  refine hflush.mono fun r s'' h => ?_
  obtain ⟨rfl, submitted⟩ := h
  have hafter := halike'.trans submitted.alike
  refine ⟨rfl, hafter, Session.ready_of_submitted ready hslot hcopied hafter submitted hpool ?_, ?_⟩
  · intro b hne
    exact (Machine.work_queued ..).trans ((if_neg hne).trans (hwork b))
  · obtain ⟨state, -, hpool'⟩ := submitted.pool
    have hdevice : s'.pool.device = s.pool.device := by rw [hpool]; rfl
    rw [hpool']
    exact hdevice

end CopyBench
