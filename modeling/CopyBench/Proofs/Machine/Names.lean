import CopyBench.Proofs.Machine.Buffers
import CopyBench.Proofs.Matching
/-!
# Machines without names

What is done about debug names leaves marks on a machine: it is counted and traced, it can be refused, and
what becomes of it is noted. No call but the one that attaches names can tell machines apart that differ in
these marks alone, and to attach a name changes nothing else.
-/

namespace CopyBench

open CopyBench.Action

/-- Whether a call attaches a name. -/
def Call.isNaming : Call → Bool
  | .nameObject .. => true
  | _ => false

/-- The schedule without what it says of names. -/
def Schedule.unnamed (schedule : Schedule) : Schedule := fun point n =>
  if point = .nameObject then none else schedule point n

namespace Table

variable {κ α : Type} [DecidableEq κ]

theorem erase_insert_self (t : Table κ α) (k : κ) (a : α) : (t.insert k a).erase k = t.erase k := by
  simp [insert, erase]

theorem erase_insert_of_ne (t : Table κ α) {k k' : κ} (a : α) (h : k' ≠ k) :
    (t.insert k' a).erase k = (t.erase k).insert k' a := by
  simp [insert, erase, h, Bool.and_comm]

end Table

namespace Machine

/-- The machine without the marks of names, and without notes. -/
def unnamed (m : Machine) : Machine :=
  { m with
    schedule := m.schedule.unnamed
    calls := m.calls.erase .nameObject
    trace := m.trace.filter fun event => !event.call.isNaming
    notes := #[] }

/-- Machines that are the same, names and notes aside. -/
def NamesAside (m m' : Machine) : Prop := m.unnamed = m'.unnamed

variable {m m' : Machine}

theorem namesAside_equivalence : Equivalence NamesAside := ⟨fun _ => rfl, Eq.symm, Eq.trans⟩

/-- What is done alike with and without names keeps machines the same. -/
theorem NamesAside.map (h : NamesAside m m') {f : Machine → Machine}
    (natural : ∀ m, (f m).unnamed = f m.unnamed) : NamesAside (f m) (f m') :=
  (natural m).trans ((congrArg f h).trans (natural m').symm)

theorem unnamed_fault {point : Entrypoint} (other : point ≠ .nameObject) :
    m.unnamed.fault point = m.fault point := by
  simp [fault, unnamed, callCount, Schedule.unnamed, Table.get?_erase_of_ne _ other, other]

theorem unnamed_tallied {point : Entrypoint} (other : point ≠ .nameObject) :
    (m.tallied point).unnamed = m.unnamed.tallied point := by
  simp [tallied, unnamed, callCount, Table.get?_erase_of_ne _ other, Table.erase_insert_of_ne _ _ other]

/-- The mark of an attempt to attach a name. -/
theorem unnamed_marked (m : Machine) (objectType : UInt32) (handle : Handle) (name : String) (reply : Reply) :
    ((m.tallied .nameObject).traced (.nameObject objectType handle name) reply).unnamed = m.unnamed := by
  simp [traced, tallied, unnamed, Table.erase_insert_self, Call.isNaming]

theorem unnamed_traced {call : Call} (reply : Reply) (other : call.isNaming = false) :
    (m.traced call reply).unnamed = m.unnamed.traced call reply := by
  simp [traced, unnamed, other]

/-! ## Calls -/

theorem blind_log (level : Level) (message : String) : Blind NamesAside (log level message : Action Machine Unit) :=
  .log (fun _ _ _ h => h) level message

theorem blind_modify {f : Machine → Machine} (natural : ∀ m, (f m).unnamed = f m.unnamed) :
    Blind NamesAside (modify f) :=
  .modify fun _ _ h => h.map natural

theorem blind_count (f : Counters → Counters) : Blind NamesAside (count f) := blind_modify fun _ => rfl

theorem blind_record {call : Call} (reply : Reply) (other : call.isNaming = false := by rfl) :
    Blind NamesAside (record call reply) :=
  blind_modify fun _ => unnamed_traced reply other

theorem blind_change {f : Machine → Machine} {call : Call} {reply : Reply} (natural : ∀ m, (f m).unnamed = f m.unnamed)
    (other : call.isNaming = false := by rfl) : Blind NamesAside (modify f >>= fun _ => record call reply) :=
  (blind_modify natural).andThen fun _ => blind_record reply other

theorem blind_nextFault {point : Entrypoint} (other : point ≠ .nameObject) : Blind NamesAside (nextFault point) :=
  fun m m' h => by
    have fault : m.fault point = m'.fault point := by
      rw [← unnamed_fault other, h, unnamed_fault other]
    exact .ok fault (h.map (f := (·.tallied point)) fun _ => unnamed_tallied other)

theorem blind_fresh : Blind NamesAside fresh := fun _ _ h =>
  .ok (congrArg (·.lastHandle + 1) h) (h.map (f := fun m => { m with lastHandle := m.lastHandle + 1 }) fun _ => rfl)

theorem blind_freshMany (n : Nat) : Blind NamesAside (freshMany n) := fun _ _ h =>
  .ok (congrArg (fun m => List.range' (m.lastHandle + 1) n) h)
    (h.map (f := fun m => { m with lastHandle := m.lastHandle + n }) fun _ => rfl)

theorem blind_takeRecorded (b : Handle) : Blind NamesAside (takeRecorded b) := fun m m' h => by
  have recorded : m.recorded = m'.recorded := congrArg (·.recorded) h
  unfold takeRecorded
  rw [recorded]
  cases m'.recorded.get? b with
  | none => exact .ok rfl h
  | some copies =>
    exact .ok rfl (h.map (f := fun m => { m with recorded := m'.recorded.insert b [] }) fun _ => rfl)

/-- A copy does not depend on names. -/
theorem unnamed_copied (m : Machine) (copy : RecordedCopy) : m.unnamed.copied copy = (m.copied copy).map unnamed := by
  unfold copied
  dsimp only [unnamed]
  rcases m.bindings.get? copy.source with _ | source
  · rfl
  rcases m.bindings.get? copy.destination with _ | destination
  · rfl
  dsimp only
  rcases m.memories.get? source with _ | bytes
  · rfl
  rcases m.memories.get? destination with _ | bytes'
  · rfl
  symm
  exact apply_ite (Except.map unnamed) _ _ _

theorem blind_execute (copy : RecordedCopy) : Blind NamesAside (execute copy) := fun m m' h => by
  have copied : (m.copied copy).map unnamed = (m'.copied copy).map unnamed := by
    rw [← unnamed_copied, ← unnamed_copied, h]
  unfold execute
  revert copied
  cases m.copied copy with
  | error cause =>
    cases m'.copied copy with
    | error cause' =>
      intro copied
      rw [Except.error.inj copied]
      exact .error _ h
    | ok m₁' => exact nofun
  | ok m₁ =>
    cases m'.copied copy with
    | error cause' => exact nofun
    | ok m₁' => exact fun copied => .ok rfl (Except.ok.inj copied)

section Calls

variable {α : Type} {point : Entrypoint} {call : Call}

/-- A call that the schedule can fail is told apart only by what it does. -/
theorem blind_invoke (shown : α → Reply) {work : Action Machine (Except ResultCode α)} (h : Blind NamesAside work)
    (other : point ≠ .nameObject) (unnaming : call.isNaming = false) :
    Blind NamesAside (invoke point call shown work) :=
  (blind_nextFault other).andThen fun fault => by
    cases fault with
    | some code => exact (blind_record _ unnaming).andThen fun _ => .pure rfl
    | none =>
      refine h.attempt.andThen fun r => ?_
      rcases r with f | code | a
      · exact (blind_record _ unnaming).andThen fun _ => .throw f
      · exact (blind_record _ unnaming).andThen fun _ => .pure rfl
      · exact (blind_record _ unnaming).andThen fun _ => .pure rfl

theorem blind_make {keep : Handle → Machine → Machine} (natural : ∀ made m, (keep made m).unnamed = keep made m.unnamed)
    (other : point ≠ .nameObject := by decide) (unnaming : call.isNaming = false := by rfl) :
    Blind NamesAside (make point call keep) :=
  blind_invoke _ (blind_fresh.andThen fun made => (blind_modify (natural made)).andThen fun _ => .pure rfl) other
    unnaming

theorem blind_affect {change : Machine → Machine} (natural : ∀ m, (change m).unnamed = change m.unnamed)
    (other : point ≠ .nameObject := by decide) (unnaming : call.isNaming = false := by rfl) :
    Blind NamesAside (affect point call change) :=
  blind_invoke _ ((blind_modify natural).andThen fun _ => .pure rfl) other unnaming

end Calls

theorem blind_executeAll (copies : List RecordedCopy) : Blind NamesAside (copies.forM execute) := by
  induction copies with
  | nil => exact .pure ()
  | cons copy copies ih => exact (blind_execute copy).andThen fun _ => ih

theorem blind_queueSubmit (queue b : Handle) (fence : Option Handle) :
    Blind NamesAside (queueSubmit queue b fence) := by
  have rest : Blind NamesAside (do
      let copies ← takeRecorded b
      copies.forM execute
      pure (.ok ()) : Action Machine (Except ResultCode Unit)) :=
    (blind_takeRecorded b).andThen fun copies => (blind_executeAll copies).andThen fun _ => .pure rfl
  refine blind_invoke _ (.look fun m m' h => ?_) (by decide) rfl
  have lostSubmits : m.lostSubmits = m'.lostSubmits := congrArg (·.lostSubmits) h
  have liveFences : m.liveFences = m'.liveFences := congrArg (·.liveFences) h
  rw [lostSubmits, liveFences]
  refine .ite ((blind_count _).andThen fun _ => .pure rfl) ((blind_count _).andThen fun _ => ?_)
  cases fence with
  | none => exact rest
  | some fence => exact .ite ((blind_count _).andThen fun _ => rest) (.throw _)

theorem blind_waitForFence (fence : Handle) (timeout : UInt64) : Blind NamesAside (waitForFence fence timeout) := by
  refine blind_invoke _ (.look fun m m' h => ?_) (by decide) rfl
  have liveFences : m.liveFences = m'.liveFences := congrArg (·.liveFences) h
  have lostWaits : m.lostWaits = m'.lostWaits := congrArg (·.lostWaits) h
  rw [liveFences, lostWaits]
  exact .ite (.pure rfl) (.throw _)

theorem blind_mapMemory (memory : Handle) (offset size : UInt64) : Blind NamesAside (mapMemory memory offset size) := by
  refine blind_invoke _ ((blind_count _).andThen fun _ => .look fun m m' h => ?_) (by decide) rfl
  have memories : m.memories = m'.memories := congrArg (·.memories) h
  rw [memories]
  exact .pure rfl

theorem blind_allocateCommandBuffers (pool : Handle) (level : Int) (n : Nat) :
    Blind NamesAside (allocateCommandBuffers pool level n) :=
  blind_invoke _ ((blind_freshMany n).andThen fun _ => .pure rfl) (by decide) rfl

theorem blind_destroyCommandPool (pool : Handle) (buffers : List Handle) :
    Blind NamesAside (destroyCommandPool pool buffers) :=
  (blind_count _).andThen fun _ => blind_record _

theorem blind_copyBuffer (b source destination : Handle) (region : Region) :
    Blind NamesAside (copyBuffer b source destination region) :=
  blind_change fun _ => rfl

theorem blind_destroyFence (fence : Handle) : Blind NamesAside (destroyFence fence) :=
  blind_change fun _ => rfl

theorem blind_destroyBuffer (buffer : Handle) : Blind NamesAside (destroyBuffer buffer) :=
  blind_change fun _ => rfl

theorem blind_freeMemory (memory : Handle) : Blind NamesAside (freeMemory memory) :=
  blind_change fun _ => rfl

theorem blind_unmapMemory (memory : Handle) : Blind NamesAside (unmapMemory memory) :=
  (blind_count _).andThen fun _ => blind_record _

theorem blind_memoryRequirement (buffer : Handle) : Blind NamesAside (memoryRequirement buffer) := fun m m' h => by
  have profile : m.profile = m'.profile := congrArg (·.profile) h
  have bufferSizes : m.bufferSizes = m'.bufferSizes := congrArg (·.bufferSizes) h
  unfold memoryRequirement
  rw [profile, bufferSizes]
  exact .ok rfl h

theorem blind_contents (memory : Handle) : Blind NamesAside (contents memory) := fun _ _ h =>
  .ok (congrArg (fun m => (m.memories.get? memory).getD ByteArray.empty) h) h

theorem blind_overwrite (memory : Handle) (offset : Nat) (patch : ByteArray) :
    Blind NamesAside (overwrite memory offset patch) :=
  .modify fun m m' h => by
    have memories : m.memories = m'.memories := congrArg (·.memories) h
    rw [memories]
    cases m'.memories.get? memory with
    | none => exact h
    | some bytes =>
      let written := m'.memories.insert memory (Bytes.splice bytes offset patch)
      exact h.map (f := fun m => { m with memories := written }) fun _ => rfl

/-- To attach a name is always answered, and changes nothing but the marks of names. -/
theorem ends_nameObject_aside (objectType : UInt32) (handle : Handle) (name : String) (m : Machine) :
    (nameObject objectType handle name).Ends m fun r m' => (∃ answer, r = .ok answer) ∧ NamesAside m m' := by
  rw [ends_nameObject]
  cases m.fault .nameObject with
  | some code => exact ⟨⟨_, rfl⟩, (m.unnamed_marked objectType handle name _).symm⟩
  | none => exact ⟨⟨_, rfl⟩, (m.unnamed_marked objectType handle name _).symm⟩

end Machine

open Machine (NamesAside)

namespace Device

theorem blind_createCommandPool (device : Device) (family : UInt32) :
    Blind NamesAside (device.createCommandPool family) := by
  have made : Blind NamesAside (Machine.createCommandPool family) := Machine.blind_make fun _ _ => rfl
  unfold createCommandPool
  cases device.route with
  | direct => exact made
  | logical debugNames => exact (Machine.blind_record _).andThen fun _ => made

theorem blind_destroyCommandPool (device : Device) (pool : Handle) (buffers : List Handle) :
    Blind NamesAside (device.destroyCommandPool pool buffers) := by
  have destroyed := Machine.blind_destroyCommandPool pool
  unfold destroyCommandPool
  cases device.route with
  | direct => exact destroyed buffers
  | logical debugNames => exact .ite ((Machine.blind_record _).andThen fun _ => destroyed []) (destroyed [])

theorem blind_queueSubmit (device : Device) (queue b : Handle) (fence : Option Handle) :
    Blind NamesAside (device.queueSubmit queue b fence) := by
  have submitted := Machine.blind_queueSubmit queue b fence
  unfold queueSubmit
  cases device.route with
  | direct => exact submitted
  | logical debugNames =>
    refine submitted.attempt.andThen fun r => ?_
    cases r <;> exact .pure rfl

theorem ends_nameObject_aside (device : Device) (objectType : UInt32) (handle : Handle) (name : String) (m : Machine) :
    (device.nameObject objectType handle name).Ends m fun r m' => (∃ answer, r = .ok answer) ∧ NamesAside m m' := by
  have attached := Machine.ends_nameObject_aside objectType handle name m
  unfold nameObject
  rcases device.route with _ | _ | _
  · exact attached
  · exact ⟨⟨_, rfl⟩, rfl⟩
  · rw [ends_ite]
    split
    · rw [ends_bind, ends_log]
      exact ⟨⟨_, rfl⟩, rfl⟩
    · exact attached

end Device

end CopyBench
