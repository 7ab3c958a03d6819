import CopyBench.Machine.Device
import CopyBench.Proofs.Machine.Copies
/-!
# What device calls answer

A call that can fail asks the schedule first. `refuse` is the machine after a call that the schedule
fails, and there is one equation for each call that says what it answers and what it leaves. A
submission hands the work of its command buffer to `replay`, which executes copies one after another.
-/

namespace CopyBench.Machine

open CopyBench.Action

variable {α : Type}

/-- The code with which the next call of an entrypoint fails, if it does. -/
def fault (m : Machine) (point : Entrypoint) : Option ResultCode :=
  m.schedule point (m.callCount point + 1)

/-- The machine with one more call of an entrypoint counted. -/
def tallied (m : Machine) (point : Entrypoint) : Machine :=
  { m with calls := m.calls.insert point (m.callCount point + 1) }

/-- What one entrypoint was asked does not change what the next call of another is answered. -/
theorem fault_tallied (m : Machine) {point point' : Entrypoint} (h : point' ≠ point) :
    (m.tallied point).fault point' = m.fault point' := by
  simp [fault, tallied, callCount, Table.get?_insert_of_ne _ _ h]

/-- The machine with one more event. -/
def traced (m : Machine) (call : Call) (reply : Reply) : Machine :=
  { m with trace := m.trace.push ⟨call, reply⟩ }

/-- The machine after a call that failed. -/
def refuse (m : Machine) (point : Entrypoint) (call : Call) (code : ResultCode) : Machine :=
  (m.tallied point).traced call (.failed code)

/-- The machine after a call that did `change`. -/
def answer (m : Machine) (point : Entrypoint) (call : Call) (reply : Reply)
    (change : Machine → Machine) : Machine :=
  (change (m.tallied point)).traced call reply

@[simp] theorem ends_count (f : Counters → Counters) (m : Machine)
    (Q : Except Failure Unit → Machine → Prop) :
    Ends (count f) m Q ↔ Q (.ok ()) { m with counters := f m.counters } := Iff.rfl

@[simp] theorem ends_record (call : Call) (reply : Reply) (m : Machine)
    (Q : Except Failure Unit → Machine → Prop) :
    Ends (record call reply) m Q ↔ Q (.ok ()) (m.traced call reply) := Iff.rfl

@[simp] theorem ends_nextFault (point : Entrypoint) (m : Machine)
    (Q : Except Failure (Option ResultCode) → Machine → Prop) :
    Ends (nextFault point) m Q ↔ Q (.ok (m.fault point)) (m.tallied point) := Iff.rfl

theorem ends_invoke (point : Entrypoint) (call : Call) (shown : α → Reply)
    (work : Action Machine (Except ResultCode α)) (m : Machine)
    (Q : Except Failure (Except ResultCode α) → Machine → Prop) :
    Ends (invoke point call shown work) m Q ↔
      match m.fault point with
      | some code => Q (.ok (.error code)) (m.refuse point call code)
      | none => work.Ends (m.tallied point) fun r m =>
        match r with
        | .ok (.ok a) => Q (.ok (.ok a)) (m.traced call (shown a))
        | .ok (.error code) => Q (.ok (.error code)) (m.traced call (.failed code))
        | .error f => Q (.error f) (m.traced call .crashed) := by
  rw [invoke, ends_bind, ends_nextFault]
  dsimp only
  cases m.fault point with
  | some code => exact Iff.rfl
  | none =>
    dsimp only
    rw [ends_bind, ends_attempt]
    apply ends_congr
    rintro (f | code | a) m <;> rfl

theorem ends_affect (point : Entrypoint) (call : Call) (change : Machine → Machine) (m : Machine)
    (Q : Except Failure (Except ResultCode Unit) → Machine → Prop) :
    Ends (affect point call change) m Q ↔
      match m.fault point with
      | some code => Q (.ok (.error code)) (m.refuse point call code)
      | none => Q (.ok (.ok ())) (m.answer point call .done change) := by
  simp only [affect, ends_invoke, ends_bind, ends_modify, ends_pure]
  rfl

theorem ends_make (point : Entrypoint) (call : Call) (keep : Handle → Machine → Machine)
    (m : Machine) (Q : Except Failure (Except ResultCode Handle) → Machine → Prop) :
    Ends (make point call keep) m Q ↔
      match m.fault point with
      | some code => Q (.ok (.error code)) (m.refuse point call code)
      | none => Q (.ok (.ok (m.lastHandle + 1)))
          (m.answer point call (.handle (m.lastHandle + 1)) fun m =>
            keep (m.lastHandle + 1) { m with lastHandle := m.lastHandle + 1 }) := by
  simp only [make, ends_invoke, ends_bind, ends_modify, ends_pure]
  rfl

/-! ## Submissions -/

/-- The copies that wait in a command buffer. -/
def work (m : Machine) (commandBuffer : Handle) : List RecordedCopy :=
  (m.recorded.get? commandBuffer).getD []

/-- The machine without the work of a command buffer. -/
def taken (m : Machine) (commandBuffer : Handle) : Machine :=
  match m.recorded.get? commandBuffer with
  | some _ => { m with recorded := m.recorded.insert commandBuffer [] }
  | none => m

/-- The machine with an accepted submission counted. -/
def submission (m : Machine) (fence : Option Handle) : Machine :=
  { m with counters := { m.counters with
      submits := m.counters.submits + 1
      fencedSubmits := m.counters.fencedSubmits + if fence.isSome then 1 else 0 } }

/-- The machine with a lost submission counted. -/
def lost (m : Machine) : Machine :=
  { m with counters := { m.counters with failedSubmits := m.counters.failedSubmits + 1 } }

/-- What a submission leads to that the machine accepts: its copies are executed, all of them or
those before the one that cannot be. -/
def executed (m : Machine) (commandBuffer : Handle) (fence : Option Handle) :
    Machine × Option Panic :=
  replay (m.work commandBuffer)
    (((m.tallied .queueSubmit).submission fence).taken commandBuffer)

theorem taken_frame (m : Machine) (b : Handle) :
    m.taken b = { m with recorded := (m.taken b).recorded } := by
  unfold taken
  cases m.recorded.get? b <;> rfl

theorem work_taken (m : Machine) (b b' : Handle) :
    (m.taken b).work b' = if b' = b then [] else m.work b' := by
  unfold work taken
  by_cases h : b' = b
  · subst h
    cases hget : m.recorded.get? b' <;> simp [hget]
  · cases m.recorded.get? b <;> simp [h, Table.get?_insert_of_ne]

/-- A submission moves bytes, counts, and takes the work of its command buffer. -/
theorem executed_frame {m m' : Machine} {b : Handle} {fence : Option Handle} {cause : Option Panic}
    (run : m.executed b fence = (m', cause)) :
    ∃ counters, m' =
        { m.tallied .queueSubmit with
          recorded := (m.taken b).recorded
          memories := m'.memories
          counters } ∧
      (cause = none →
        counters.copiesExecuted = m.counters.copiesExecuted + (m.work b).length) := by
  obtain ⟨n, hn, hall⟩ := replay_frame (m.work b)
    (((m.tallied .queueSubmit).submission fence).taken b)
  have htaken : (((m.tallied .queueSubmit).submission fence).taken b) =
      { (m.tallied .queueSubmit).submission fence with recorded := (m.taken b).recorded } := by
    unfold taken
    change (match m.recorded.get? b with | some _ => _ | none => _) = _
    cases m.recorded.get? b <;> rfl
  change m.executed b fence = _ at run
  unfold executed at run
  rw [run] at hn hall
  refine ⟨{ ((m.tallied .queueSubmit).submission fence).counters with
    copiesExecuted := m.counters.copiesExecuted + n }, ?_, fun h => by rw [hall h]⟩
  dsimp only at hn
  rw [hn, htaken]
  rfl

/-- Of what is counted, a submission changes the counts of submissions and of executed copies. -/
theorem counters_executed {m m' : Machine} {b : Handle} {fence : Option Handle} {cause : Option Panic}
    (run : m.executed b fence = (m', cause)) :
    m'.counters =
      { (m.submission fence).counters with copiesExecuted := m'.counters.copiesExecuted } := by
  obtain ⟨n, hn, -⟩ := replay_frame (m.work b) (((m.tallied .queueSubmit).submission fence).taken b)
  have counted := congrArg counters hn
  have untouched : (((m.tallied .queueSubmit).submission fence).taken b).counters =
      (m.submission fence).counters := by
    rw [taken_frame]
    rfl
  unfold executed at run
  rw [run] at counted
  dsimp only at counted
  rw [counted, untouched]

theorem ends_takeRecorded (commandBuffer : Handle) (m : Machine)
    (Q : Except Failure (List RecordedCopy) → Machine → Prop) :
    Ends (takeRecorded commandBuffer) m Q ↔
      Q (.ok (m.work commandBuffer)) (m.taken commandBuffer) := by
  unfold Ends takeRecorded work taken
  cases m.recorded.get? commandBuffer <;> rfl

theorem ends_queueSubmit (queue commandBuffer : Handle) (fence : Option Handle) (m : Machine)
    (live : ∀ f, fence = some f → f ∈ m.liveFences)
    (Q : Except Failure (Except ResultCode Unit) → Machine → Prop) :
    Ends (queueSubmit queue commandBuffer fence) m Q ↔
      match m.fault .queueSubmit with
      | some code => Q (.ok (.error code))
          (m.refuse .queueSubmit (.queueSubmit queue commandBuffer fence) code)
      | none =>
        if commandBuffer ∈ m.lostSubmits then
          Q (.ok (.error .deviceLost))
            (m.lost.refuse .queueSubmit (.queueSubmit queue commandBuffer fence) .deviceLost)
        else
          match m.executed commandBuffer fence with
          | (m, none) => Q (.ok (.ok ())) (m.traced (.queueSubmit queue commandBuffer fence) .done)
          | (m, some cause) => Q (.error (.panic cause))
              (m.traced (.queueSubmit queue commandBuffer fence) .crashed) := by
  rw [queueSubmit, ends_invoke]
  cases m.fault .queueSubmit with
  | some code => exact Iff.rfl
  | none =>
    dsimp only
    rw [ends_bind, ends_get]
    dsimp only
    by_cases hlost : commandBuffer ∈ m.lostSubmits
    · rw [if_pos hlost, if_pos (show commandBuffer ∈ (m.tallied .queueSubmit).lostSubmits from hlost)]
      exact Iff.rfl
    rw [if_neg hlost, if_neg (show commandBuffer ∉ (m.tallied .queueSubmit).lostSubmits from hlost),
      ends_bind, ends_count]
    dsimp only
    -- With the fence counted, what is left is the same with and without one.
    have rest (R : Except Failure _ → Machine → Prop) :
        Ends (do
            let copies ← takeRecorded commandBuffer
            copies.forM execute
            pure (.ok () : Except ResultCode Unit)) ((m.tallied .queueSubmit).submission fence) R ↔
          match m.executed commandBuffer fence with
          | (m, none) => R (.ok (.ok ())) m
          | (m, some cause) => R (.error (.panic cause)) m := by
      rw [ends_bind, ends_takeRecorded]
      dsimp only
      rw [ends_bind, ends_forM_execute]
      change (match m.executed commandBuffer fence with
        | (m, none) => _
        | (m, some cause) => _) ↔ _
      rcases m.executed commandBuffer fence with ⟨m, _ | cause⟩ <;> exact Iff.rfl
    cases fence with
    | none =>
      change Ends _ ((m.tallied .queueSubmit).submission none) _ ↔ _
      refine (rest _).trans ?_
      rcases m.executed commandBuffer none with ⟨m, _ | cause⟩ <;> exact Iff.rfl
    | some f =>
      dsimp only
      rw [if_pos (show f ∈ (m.tallied .queueSubmit).liveFences from live f rfl), ends_bind, ends_count]
      change Ends _ ((m.tallied .queueSubmit).submission (some f)) _ ↔ _
      refine (rest _).trans ?_
      rcases m.executed commandBuffer (some f) with ⟨m, _ | cause⟩ <;> exact Iff.rfl

/-- Through a logical device a submission that breaks down is answered with a lost device. -/
theorem ends_device_queueSubmit (device : Device) (queue commandBuffer : Handle)
    (fence : Option Handle) (m : Machine)
    (Q : Except Failure (Except ResultCode Unit) → Machine → Prop) :
    Ends (device.queueSubmit queue commandBuffer fence) m Q ↔
      Ends (queueSubmit queue commandBuffer fence) m fun r m =>
        match device.route, r with
        | .logical _, .error _ => Q (.ok (.error .deviceLost)) m
        | _, r => Q r m := by
  unfold Device.queueSubmit
  cases device.route with
  | direct => exact Iff.rfl
  | logical debugNames =>
    dsimp only
    rw [ends_bind, ends_attempt]
    apply ends_congr
    rintro (f | answer) m <;> exact Iff.rfl

/-! ## The other calls on command buffers and fences -/

/-- The machine after a command buffer was begun. -/
def began (m : Machine) (commandBuffer : Handle) (flags : UInt32) : Machine :=
  m.answer .beginCommandBuffer (.beginCommandBuffer commandBuffer flags) .done fun m =>
    { m with
      counters := { m.counters with begins := m.counters.begins + 1 }
      recorded := m.recorded.insert commandBuffer [] }

/-- The machine after a command buffer was ended. -/
def ended (m : Machine) (commandBuffer : Handle) : Machine :=
  m.answer .endCommandBuffer (.endCommandBuffer commandBuffer) .done fun m =>
    { m with counters := { m.counters with ends := m.counters.ends + 1 } }

/-- The machine after its queue was waited for. -/
def drained (m : Machine) (queue : Handle) : Machine :=
  m.answer .queueWaitIdle (.queueWaitIdle queue) .done fun m =>
    { m with counters := { m.counters with queueIdles := m.counters.queueIdles + 1 } }

/-- The machine after a fence was made. -/
def fenced (m : Machine) : Machine :=
  m.answer .createFence .createFence (.handle (m.lastHandle + 1)) fun m =>
    { m with
      lastHandle := m.lastHandle + 1
      liveFences := (m.lastHandle + 1) :: m.liveFences
      counters := { m.counters with fencesCreated := m.counters.fencesCreated + 1 } }

/-- The machine after a fence was waited for. -/
def waited (m : Machine) (fence : Handle) (timeout : UInt64) : Machine :=
  m.answer .waitForFence (.waitForFence fence timeout) .done id

/-- The machine after a fence was destroyed. -/
def unfenced (m : Machine) (fence : Handle) : Machine :=
  traced { m with
    liveFences := m.liveFences.erase fence
    counters := { m.counters with fencesDestroyed := m.counters.fencesDestroyed + 1 } }
    (.destroyFence fence) .done

/-- The machine after a copy was recorded. -/
def queued (m : Machine) (commandBuffer : Handle) (copy : RecordedCopy) : Machine :=
  traced { m with
    recorded := m.recorded.insert commandBuffer (m.work commandBuffer ++ [copy]) }
    (.copyBuffer commandBuffer copy.source copy.destination copy.region) .done

theorem ends_beginCommandBuffer (commandBuffer : Handle) (flags : UInt32) (m : Machine)
    (Q : Except Failure (Except ResultCode Unit) → Machine → Prop) :
    Ends (beginCommandBuffer commandBuffer flags) m Q ↔
      match m.fault .beginCommandBuffer with
      | some code => Q (.ok (.error code))
          (m.refuse .beginCommandBuffer (.beginCommandBuffer commandBuffer flags) code)
      | none => Q (.ok (.ok ())) (m.began commandBuffer flags) :=
  ends_affect ..

theorem ends_endCommandBuffer (commandBuffer : Handle) (m : Machine)
    (Q : Except Failure (Except ResultCode Unit) → Machine → Prop) :
    Ends (endCommandBuffer commandBuffer) m Q ↔
      match m.fault .endCommandBuffer with
      | some code => Q (.ok (.error code))
          (m.refuse .endCommandBuffer (.endCommandBuffer commandBuffer) code)
      | none => Q (.ok (.ok ())) (m.ended commandBuffer) :=
  ends_affect ..

theorem ends_queueWaitIdle (queue : Handle) (m : Machine)
    (Q : Except Failure (Except ResultCode Unit) → Machine → Prop) :
    Ends (queueWaitIdle queue) m Q ↔
      match m.fault .queueWaitIdle with
      | some code => Q (.ok (.error code)) (m.refuse .queueWaitIdle (.queueWaitIdle queue) code)
      | none => Q (.ok (.ok ())) (m.drained queue) :=
  ends_affect ..

theorem ends_createFence (m : Machine)
    (Q : Except Failure (Except ResultCode Handle) → Machine → Prop) :
    Ends createFence m Q ↔
      match m.fault .createFence with
      | some code => Q (.ok (.error code)) (m.refuse .createFence .createFence code)
      | none => Q (.ok (.ok (m.lastHandle + 1))) m.fenced :=
  ends_make ..

theorem ends_waitForFence (fence : Handle) (timeout : UInt64) (m : Machine)
    (live : fence ∈ m.liveFences)
    (Q : Except Failure (Except ResultCode Unit) → Machine → Prop) :
    Ends (waitForFence fence timeout) m Q ↔
      match m.fault .waitForFence with
      | some code => Q (.ok (.error code))
          (m.refuse .waitForFence (.waitForFence fence timeout) code)
      | none =>
        if m.lostWaits then
          Q (.ok (.error .deviceLost))
            (m.refuse .waitForFence (.waitForFence fence timeout) .deviceLost)
        else Q (.ok (.ok ())) (m.waited fence timeout) := by
  rw [waitForFence, ends_invoke]
  cases m.fault .waitForFence with
  | some code => exact Iff.rfl
  | none =>
    dsimp only
    rw [ends_bind, ends_get]
    dsimp only
    rw [if_pos (show fence ∈ (m.tallied .waitForFence).liveFences from live), ends_pure]
    by_cases hlost : m.lostWaits = true
    · rw [if_pos hlost, if_pos (show (m.tallied .waitForFence).lostWaits = true from hlost)]
      exact Iff.rfl
    · rw [if_neg hlost, if_neg (show ¬(m.tallied .waitForFence).lostWaits = true from hlost)]
      exact Iff.rfl

theorem ends_copyBuffer (commandBuffer source destination : Handle) (region : Region) (m : Machine)
    (Q : Except Failure Unit → Machine → Prop) :
    Ends (copyBuffer commandBuffer source destination region) m Q ↔
      Q (.ok ()) (m.queued commandBuffer ⟨source, destination, region⟩) := Iff.rfl

/-! ## What the calls leave -/

section Fields

variable (m : Machine) (b fence : Handle) (point : Entrypoint) (call : Call) (reply : Reply)
  (code : ResultCode) (flags : UInt32) (timeout : UInt64) (copy : RecordedCopy)

@[simp] theorem trace_traced : (m.traced call reply).trace = m.trace.push ⟨call, reply⟩ := rfl

@[simp] theorem trace_refuse :
    (m.refuse point call code).trace = m.trace.push ⟨call, .failed code⟩ := rfl

@[simp] theorem trace_lost : m.lost.trace = m.trace := rfl

@[simp] theorem trace_began :
    (m.began b flags).trace = m.trace.push ⟨.beginCommandBuffer b flags, .done⟩ := rfl

@[simp] theorem trace_ended : (m.ended b).trace = m.trace.push ⟨.endCommandBuffer b, .done⟩ := rfl

@[simp] theorem trace_drained : (m.drained b).trace = m.trace.push ⟨.queueWaitIdle b, .done⟩ := rfl

@[simp] theorem trace_fenced :
    m.fenced.trace = m.trace.push ⟨.createFence, .handle (m.lastHandle + 1)⟩ := rfl

@[simp] theorem trace_waited :
    (m.waited fence timeout).trace = m.trace.push ⟨.waitForFence fence timeout, .done⟩ := rfl

@[simp] theorem trace_unfenced :
    (m.unfenced fence).trace = m.trace.push ⟨.destroyFence fence, .done⟩ := rfl

@[simp] theorem trace_queued : (m.queued b copy).trace =
    m.trace.push ⟨.copyBuffer b copy.source copy.destination copy.region, .done⟩ := rfl

end Fields

variable {m m' : Machine} {b : Handle} {fence : Option Handle} {cause : Option Panic}

theorem trace_executed (run : m.executed b fence = (m', cause)) : m'.trace = m.trace := by
  obtain ⟨_, hframe, -⟩ := executed_frame run
  exact (congrArg trace hframe).trans rfl

@[simp] theorem liveFences_traced (m : Machine) (call : Call) (reply : Reply) :
    (m.traced call reply).liveFences = m.liveFences := rfl

theorem liveFences_executed (run : m.executed b fence = (m', cause)) :
    m'.liveFences = m.liveFences := by
  obtain ⟨_, hframe, -⟩ := executed_frame run
  exact (congrArg liveFences hframe).trans rfl

@[simp] theorem work_traced (m : Machine) (call : Call) (reply : Reply) (b : Handle) :
    (m.traced call reply).work b = m.work b := rfl

theorem work_began (m : Machine) (b b' : Handle) (flags : UInt32) :
    (m.began b flags).work b' = if b' = b then [] else m.work b' := by
  show ((m.recorded.insert b []).get? b').getD [] = _
  by_cases h : b' = b
  · simp [h]
  · simp [h, Table.get?_insert_of_ne, work]

theorem work_queued (m : Machine) (b b' : Handle) (copy : RecordedCopy) :
    (m.queued b copy).work b' = if b' = b then m.work b' ++ [copy] else m.work b' := by
  show ((m.recorded.insert b (m.work b ++ [copy])).get? b').getD [] = _
  by_cases h : b' = b
  · simp [h]
  · simp [h, Table.get?_insert_of_ne, work]

/-- The copies of a command buffer that can each be executed are all executed, and move no memory. -/
theorem sameShape_executed (sound : ∀ copy ∈ m.work b, m.CanCopy copy)
    (run : m.executed b fence = (m', cause)) : cause = none ∧ m.SameShape m' := by
  have hshape : m.SameShape (((m.tallied .queueSubmit).submission fence).taken b) := by
    rw [taken_frame]
    exact ⟨rfl, fun _ => rfl⟩
  have h := replay_of_canCopy fun copy hcopy => (sound copy hcopy).of_sameShape hshape
  unfold executed at run
  rw [run] at h
  exact ⟨h.1, hshape.trans h.2⟩

/-- What a submission does to the bytes is what its copies do. -/
theorem sameMemory_executed {m₀ : Machine} (h : SameMemory m₀ m) (run : m.executed b fence = (m', cause)) :
    SameMemory (replay (m.work b) m₀).1 m' ∧ (replay (m.work b) m₀).2 = cause := by
  have hsame : SameMemory m (((m.tallied .queueSubmit).submission fence).taken b) := by
    rw [taken_frame]
    exact ⟨rfl, rfl⟩
  have hreplay := (h.trans hsame).replay (m.work b)
  unfold executed at run
  rw [run] at hreplay
  exact ⟨hreplay.1, hreplay.2.symm⟩

theorem work_executed (run : m.executed b fence = (m', cause)) (b' : Handle) :
    m'.work b' = if b' = b then [] else m.work b' := by
  obtain ⟨_, hframe, -⟩ := executed_frame run
  exact (congrArg (work · b') hframe).trans (work_taken m b b')

/-- Whatever the device, a submission whose copies can all be executed is accepted or answered with a
code, and never breaks down. -/
theorem ends_submission (device : Device) (queue b : Handle) (fence : Option Handle) (m : Machine)
    (live : ∀ f, fence = some f → f ∈ m.liveFences) (sound : ∀ copy ∈ m.work b, m.CanCopy copy)
    (Q : Except Failure (Except ResultCode Unit) → Machine → Prop) :
    Ends (device.queueSubmit queue b fence) m Q ↔
      match m.fault .queueSubmit with
      | some code => Q (.ok (.error code)) (m.refuse .queueSubmit (.queueSubmit queue b fence) code)
      | none =>
        if b ∈ m.lostSubmits then
          Q (.ok (.error .deviceLost))
            (m.lost.refuse .queueSubmit (.queueSubmit queue b fence) .deviceLost)
        else Q (.ok (.ok ())) ((m.executed b fence).1.traced (.queueSubmit queue b fence) .done) := by
  rw [ends_device_queueSubmit, ends_queueSubmit _ _ _ _ live]
  cases m.fault .queueSubmit with
  | some code => cases device.route <;> exact Iff.rfl
  | none =>
    by_cases hlost : b ∈ m.lostSubmits
    · dsimp only
      rw [if_pos hlost, if_pos hlost]
      cases device.route <;> exact Iff.rfl
    · dsimp only
      rw [if_neg hlost, if_neg hlost]
      rcases hrun : m.executed b fence with ⟨m, cause⟩
      obtain rfl := (sameShape_executed sound hrun).1
      cases device.route <;> exact Iff.rfl

end CopyBench.Machine
