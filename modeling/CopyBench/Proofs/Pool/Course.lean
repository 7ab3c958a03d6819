import CopyBench.Proofs.Pool.Transcript
import CopyBench.Proofs.Pool.Waiting
import CopyBench.Proofs.Trace.Halting
/-!
# The course of work on buffers

Work that starts on an unladen session, one whose slots are idle and hold no copies, takes a course: it goes
through or halts at an obstacle, a copy is complete for each wait that was answered, no slot is flushed
because it was still open, and as long as nothing failed the session is unladen again. Courses can be put
together, and what is given back on the way out changes nothing about them.
-/

namespace CopyBench

open CopyBench.Action

/-- One for an attempt that succeeded, none for one that failed. -/
def successes {α : Type} : Except Failure α → Nat
  | .ok _ => 1
  | .error _ => 0

namespace Machine

/-- A machine on which some calls were made that neither record copies nor submit them. -/
structure Beside (m : Machine) (more : List Event) (m' : Machine) : Prop where
  trace : m'.trace.toList = m.trace.toList ++ more
  profile : m'.profile = m.profile
  recorded : m'.recorded = m.recorded
  fenced : m'.counters.fencedSubmits = m.counters.fencedSubmits

variable {m m₁ m₂ : Machine} {more more' : List Event}

theorem Beside.refl (m : Machine) : Beside m [] m := ⟨(List.append_nil _).symm, rfl, rfl, rfl⟩

theorem Beside.trans (h : Beside m more m₁) (h' : Beside m₁ more' m₂) : Beside m (more ++ more') m₂ :=
  ⟨by rw [h'.trace, h.trace, List.append_assoc], h'.profile.trans h.profile, h'.recorded.trans h.recorded,
    h'.fenced.trans h.fenced⟩

theorem beside_event {event : Event} (trace : m₁.trace = m.trace.push event) (profile : m₁.profile = m.profile)
    (recorded : m₁.recorded = m.recorded) (fenced : m₁.counters.fencedSubmits = m.counters.fencedSubmits) :
    Beside m [event] m₁ :=
  ⟨by rw [trace, Array.toList_push], profile, recorded, fenced⟩

end Machine

open Machine (Beside)

namespace Session

variable {α β : Type} {s s₁ s₂ s' : Session} {more more' : List Event} {copies copies' writes writes' : Nat}
  {r : Except Failure α}

/-- Every slot is idle, there is a next one, and no copy waits in any command buffer. -/
structure Unladen (s : Session) : Prop where
  idle : s.pool.Idle
  ring : s.pool.cursor < s.pool.slots.length
  blank : ∀ b, s.machine.work b = []

theorem Unladen.beside {m : Machine} (unladen : s.Unladen) (beside : Beside s.machine more m) : Unladen ⟨m, s.pool⟩ :=
  ⟨unladen.idle, unladen.ring, fun b => by rw [Machine.work, beside.recorded]; exact unladen.blank b⟩

/-- Some work went through or halted. As many copies are complete as waits were answered. -/
structure Course (s : Session) (more : List Event) (copies writes : Nat) (r : Except Failure α) (s' : Session) :
    Prop where
  halted : Halted more r
  trace : s'.machine.trace.toList = s.machine.trace.toList ++ more
  profile : s'.machine.profile = s.machine.profile
  device : s'.pool.device = s.pool.device
  autoFlushes : s'.pool.autoFlushes = s.pool.autoFlushes
  fenced : s'.machine.counters.fencedSubmits = s.machine.counters.fencedSubmits + more.countP Event.fenced
  completes : more.countP Event.completes = copies
  /-- Work that went through had one submission for each copy, and `writes` ranges mapped. -/
  counted : ∀ a, r = .ok a → more.countP Event.fenced = copies ∧ more.countP Event.maps = writes
  unladen : ∀ a, r = .ok a → s'.Unladen

theorem Course.trans {a : α} {r : Except Failure β} (h : Course s more copies writes (.ok a) s₁)
    (h' : Course s₁ more' copies' writes' r s₂) :
    Course s (more ++ more') (copies + copies') (writes + writes') r s₂ where
  halted := h.halted.trans h'.halted
  trace := by rw [h'.trace, h.trace, List.append_assoc]
  profile := h'.profile.trans h.profile
  device := h'.device.trans h.device
  autoFlushes := h'.autoFlushes.trans h.autoFlushes
  fenced := by rw [h'.fenced, h.fenced, List.countP_append, Nat.add_assoc]
  completes := by rw [List.countP_append, h.completes, h'.completes]
  counted b hb := by
    obtain ⟨fenced, maps⟩ := h.counted a rfl
    obtain ⟨fenced', maps'⟩ := h'.counted b hb
    rw [List.countP_append, List.countP_append, fenced, fenced', maps, maps']
    exact ⟨rfl, rfl⟩
  unladen := h'.unladen

/-- What there might have been does not matter when work failed. -/
theorem Course.fail {f : Failure} (h : Course s more copies writes (.error f : Except Failure α) s')
    (writes' : Nat) : Course s more copies writes' (.error f : Except Failure β) s' :=
  ⟨h.halted.fail, h.trace, h.profile, h.device, h.autoFlushes, h.fenced, h.completes, nofun, nofun⟩

theorem Course.value {a : α} (h : Course s more copies writes (.ok a) s') (b : β) :
    Course s more copies writes (.ok b) s' :=
  ⟨h.halted.value b, h.trace, h.profile, h.device, h.autoFlushes, h.fenced, h.completes,
    fun _ _ => h.counted a rfl, fun _ _ => h.unladen a rfl⟩

theorem countP_of_minor (minor : ∀ event ∈ more, event.Minor) :
    more.countP Event.completes = 0 ∧ more.countP Event.fenced = 0 ∧ more.countP Event.maps = 0 := by
  refine ⟨List.countP_eq_zero.2 ?_, List.countP_eq_zero.2 ?_, List.countP_eq_zero.2 ?_⟩ <;> intro event hmem
  · simp [(minor event hmem).completes]
  · simp [(minor event hmem).fenced]
  · simp [(minor event hmem).maps]

/-- What was gathered is given back, which changes no course. -/
theorem Course.release {m : Machine} (h : Course s more copies writes r s₁) (beside : Beside s₁.machine more' m)
    (released : ∀ event ∈ more', event.releases = true) :
    Course s (more ++ more') copies writes r ⟨m, s₁.pool⟩ := by
  obtain ⟨completes, fenced, maps⟩ :=
    countP_of_minor fun event hmem => Event.minor_of_releases (released event hmem)
  refine ⟨h.halted.release released, ?_, beside.profile.trans h.profile, h.device, h.autoFlushes, ?_, ?_,
    fun a ha => ?_, fun a ha => (h.unladen a ha).beside beside⟩
  · rw [beside.trace, h.trace, List.append_assoc]
  · rw [beside.fenced, h.fenced, List.countP_append, fenced, Nat.add_zero]
  · rw [List.countP_append, completes, h.completes, Nat.add_zero]
  · obtain ⟨fenced', maps'⟩ := h.counted a ha
    rw [List.countP_append, List.countP_append, fenced, maps, fenced', maps']
    exact ⟨rfl, rfl⟩

/-- Nothing is given back, and nothing done but notes. -/
theorem Course.told {m : Machine} (h : Course s more copies writes r s₁) (beside : Beside s₁.machine [] m) :
    Course s more copies writes r ⟨m, s₁.pool⟩ :=
  List.append_nil more ▸ h.release beside (List.forall_mem_nil _)

theorem Course.refl (unladen : s.Unladen) (a : α) : Course s [] 0 0 (.ok a) s :=
  ⟨.through (List.forall_mem_nil _) a, (List.append_nil _).symm, rfl, rfl, rfl, rfl, rfl,
    fun _ _ => ⟨rfl, rfl⟩, fun _ _ => unladen⟩

/-- Calls that neither record nor submit are a course of work. -/
theorem Unladen.course {m : Machine} (unladen : s.Unladen) (beside : Beside s.machine more m) (halted : Halted more r)
    (minor : ∀ event ∈ more, event.completes = false ∧ event.fenced = false)
    (maps : ∀ a, r = .ok a → more.countP Event.maps = writes) : Course s more 0 writes r ⟨m, s.pool⟩ := by
  have completes : more.countP Event.completes = 0 :=
    List.countP_eq_zero.2 fun event hmem => by simp [(minor event hmem).1]
  have fenced : more.countP Event.fenced = 0 :=
    List.countP_eq_zero.2 fun event hmem => by simp [(minor event hmem).2]
  refine ⟨halted, beside.trace, beside.profile, rfl, rfl, ?_, completes, fun a ha => ⟨fenced, maps a ha⟩,
    fun _ _ => unladen.beside beside⟩
  rw [beside.fenced, fenced, Nat.add_zero]

/-! ## Copies that are waited for -/

section Flush

variable {queue b : Handle} {before state : SlotState} {r : Except Failure Unit}

/-- A flush of an open slot goes through, or halts at the call that is turned down. -/
theorem Transcript.halted (h : Transcript queue b true .recording more r state) : Halted more r := by
  have smooth {event : Event} (accepted : event.fails = false) : ∀ e ∈ [event], e.fails = false :=
    List.forall_mem_singleton.2 accepted
  have released (fence : Handle) : ∀ e ∈ [Event.mk (.destroyFence fence) .done], e.releases = true :=
    List.forall_mem_singleton.2 rfl
  cases h with
  | unended code => exact Halted.turnedDown rfl (List.forall_mem_nil _)
  | ended rest =>
    cases rest with
    | unfenced code => exact Halted.after (smooth rfl) (.turnedDown rfl (List.forall_mem_nil _))
    | fenced fence rest =>
      refine Halted.after (List.forall_mem_cons.2 ⟨rfl, smooth rfl⟩ : ∀ e ∈ [_, _], Event.fails e = false) ?_
      cases rest with
      | refused code => exact .turnedDown rfl (released fence)
      | unconfirmed code => exact .after (smooth rfl) (.turnedDown rfl (released fence))
      | confirmed => exact .through (by simp [Event.fails]) ()

/-- A flush of an open slot completes its copies when it succeeds, and only then. -/
theorem Transcript.counted (h : Transcript queue b true .recording more r state) :
    more.countP Event.completes = successes r ∧
      ∀ a, r = .ok a → more.countP Event.fenced = 1 ∧ more.countP Event.maps = 0 := by
  cases h with
  | unended code => exact ⟨rfl, nofun⟩
  | ended rest =>
    cases rest with
    | unfenced code => exact ⟨rfl, nofun⟩
    | fenced fence rest =>
      cases rest with
      | refused code | unconfirmed code => exact ⟨rfl, nofun⟩
      | confirmed => exact ⟨rfl, fun _ _ => ⟨rfl, rfl⟩⟩

end Flush

section Recorded

variable {b : Handle} {slot : Slot} {copy : RecordedCopy} {state : SlotState}

/-- The session after a copy was recorded into the next slot, whose command buffer is `b`. -/
def withCopy (s : Session) (b : Handle) (copy : RecordedCopy) : Session :=
  ⟨(s.machine.began b simultaneousUse).queued b copy, (turned s.pool).setState s.pool.cursor .recording⟩

theorem trace_withCopy (s : Session) (b : Handle) (copy : RecordedCopy) :
    (s.withCopy b copy).machine.trace.toList = s.machine.trace.toList ++
      [⟨.beginCommandBuffer b simultaneousUse, .done⟩,
        ⟨.copyBuffer b copy.source copy.destination copy.region, .done⟩] := by
  unfold withCopy
  rw [Machine.trace_queued, Machine.trace_began, Array.toList_push, Array.toList_push, List.append_assoc]
  rfl

/-- On an unladen session, the copy that was recorded is the only one that waits. -/
theorem Unladen.work_withCopy (unladen : s.Unladen) (b b' : Handle) (copy : RecordedCopy) :
    (s.withCopy b copy).machine.work b' = if b' = b then [copy] else [] := by
  unfold withCopy
  rw [Machine.work_queued, Machine.work_began, unladen.blank b']
  split <;> rfl

/-- A flush that succeeds leaves the session unladen. -/
theorem Unladen.flushed (unladen : s.Unladen) {queue : Handle}
    (transcript : Transcript queue b true .recording more (.ok ()) state)
    (advance : Advance (s.withCopy b copy) s.pool.cursor state more (.ok ()) s') : s'.Unladen := by
  have submits : submitted more = [b] := by
    simpa [transcript.reached, Slot.waiting, SlotState.holds] using transcript.waiting
  have pool : s'.pool = (turned s.pool).setState s.pool.cursor .idle := by
    rw [advance.pool, transcript.reached, SlotState.flushed_waiting]
    exact setState_setState ..
  constructor
  · rw [pool]
    exact CommandPool.Idle.setState (show (turned s.pool).Idle from unladen.idle) s.pool.cursor
  · rw [pool]
    change (s.pool.cursor + 1) % s.pool.slots.length < (List.modify ..).length
    rw [List.length_modify]
    exact Nat.mod_lt _ (Nat.lt_of_le_of_lt (Nat.zero_le _) unladen.ring)
  · intro b'
    rw [advance.machine.work b', submits, unladen.work_withCopy]
    by_cases heq : b' = b
    · rw [if_pos (List.mem_singleton.2 heq)]
    · rw [if_neg fun hmem => heq (List.mem_singleton.1 hmem), if_neg heq]

/-- Recording a copy and flushing its slot is a course of work, and completes the copy when it succeeds. -/
theorem Unladen.course_flushed (unladen : s.Unladen) {queue : Handle} {r : Except Failure Unit}
    (transcript : Transcript queue b true .recording more r state)
    (advance : Advance (s.withCopy b copy) s.pool.cursor state more r s') :
    ∃ more, Course s more (successes r) 0 r s' := by
  obtain ⟨completes, counted⟩ := transcript.counted
  refine ⟨[⟨.beginCommandBuffer b simultaneousUse, .done⟩,
    ⟨.copyBuffer b copy.source copy.destination copy.region, .done⟩] ++ more, ?_⟩
  constructor
  case halted => exact .after (by simp [Event.fails]) transcript.halted
  case trace => rw [advance.machine.trace, trace_withCopy, List.append_assoc]
  case profile => exact advance.machine.setting.profile
  case device =>
    rw [advance.pool]
    rfl
  case autoFlushes =>
    rw [advance.pool]
    rfl
  case fenced =>
    rw [advance.machine.fenced, List.countP_append]
    exact congrArg (s.machine.counters.fencedSubmits + ·) (Nat.zero_add _).symm
  case completes =>
    rw [List.countP_append, completes]
    exact Nat.zero_add _
  case counted =>
    intro a ha
    obtain ⟨fenced, maps⟩ := counted a ha
    rw [List.countP_append, List.countP_append, fenced, maps, ha]
    exact ⟨rfl, rfl⟩
  case unladen =>
    rintro a rfl
    exact unladen.flushed transcript advance

end Recorded

end Session

open Session

/-- A copy that can be executed is made on an unladen session and waited for. It is complete when that succeeds. -/
theorem StagedBuffer.ends_copyFrom_course {s : Session} (unladen : s.Unladen) {buffer source : BoundBuffer}
    {region : Region} (sound : s.machine.CanCopy ⟨source.handle, buffer.handle, region⟩) :
    (copyFrom buffer source region true).Ends s fun r s' => ∃ more, Course s more (successes r) 0 r s' := by
  obtain ⟨slot, hslot⟩ : ∃ slot, s.pool.slots[s.pool.cursor]? = some slot :=
    ⟨_, List.getElem?_eq_getElem unladen.ring⟩
  rw [ends_copyFrom, ends_acquire_idle hslot (unladen.idle slot (List.mem_of_getElem? hslot))]
  cases s.machine.fault .beginCommandBuffer with
  | some code =>
    refine ⟨[⟨.beginCommandBuffer slot.commandBuffer simultaneousUse, .failed code⟩], ?_⟩
    exact ⟨.turnedDown rfl (List.forall_mem_nil _), Array.toList_push, rfl, rfl, rfl, rfl, rfl, by simp, by simp⟩
  | none =>
    let copy : RecordedCopy := ⟨source.handle, buffer.handle, region⟩
    have hopen := slot_setState .recording (show (turned s.pool).slots[s.pool.cursor]? = some slot from hslot)
    refine (ends_flush_transcript (s := s.withCopy slot.commandBuffer copy) hopen (fun _ copy' hcopy => ?_)
      true).mono fun r s' h => ?_
    · rw [unladen.work_withCopy, if_pos rfl] at hcopy
      cases List.mem_singleton.1 hcopy
      exact sound
    · obtain ⟨more, state, transcript, advance⟩ := h
      exact unladen.course_flushed transcript advance

end CopyBench
