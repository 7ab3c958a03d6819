import CopyBench.Buffer.Staged
import CopyBench.Proofs.Buffer.Bound
import CopyBench.Proofs.Buffer.MemoryType
import CopyBench.Proofs.Machine.Inventory
import CopyBench.Proofs.Machine.Names
import CopyBench.Proofs.Pool.Calls
/-!
# The courses of a creation

Making a buffer takes four calls, of which one searches the memory types and the others can be refused. Each
course is listed with its events, its outcome and the machine that it leaves. From the list follows what a
creation asks for, when it succeeds, and that one which fails gives back exactly what it got.
-/

namespace CopyBench

open CopyBench.Action

/-- The call that makes a buffer. -/
def BufferSpec.creating (spec : BufferSpec) : Call := .createBuffer spec.size spec.usage spec.sharing

namespace Event

/-- The buffer that an event makes. -/
def createdBuffer? : Event → Option Handle
  | ⟨.createBuffer .., .handle made⟩ => some made
  | _ => none

/-- The buffer that an event destroys. -/
def destroyedBuffer? : Event → Option Handle
  | ⟨.destroyBuffer buffer, .done⟩ => some buffer
  | _ => none

/-- The size and the memory type for which an event asks for memory, whether it gets it or not. -/
def allocation? (event : Event) : Option (UInt64 × Nat) :=
  match event.call with
  | .allocateMemory size memoryType => some (size, memoryType)
  | _ => none

/-- The memory that an event allocates. -/
def allocatedMemory? : Event → Option Handle
  | ⟨.allocateMemory .., .handle made⟩ => some made
  | _ => none

/-- The memory that an event frees. -/
def freedMemory? : Event → Option Handle
  | ⟨.freeMemory memory, .done⟩ => some memory
  | _ => none

end Event

namespace Machine

/-- A machine on which calls were counted, and events and notes taken down, that give nothing back. -/
structure Annotated (m m' : Machine) : Prop where
  frame : m' = { m with calls := m'.calls, trace := m'.trace, notes := m'.notes }
  returned : returned m'.trace.toList = returned m.trace.toList

variable {m m₁ m₂ m₃ : Machine}

theorem Annotated.refl (m : Machine) : Annotated m m := ⟨rfl, rfl⟩

theorem Annotated.trans (h : Annotated m₁ m₂) (h' : Annotated m₂ m₃) : Annotated m₁ m₃ := by
  refine ⟨?_, h'.returned.trans h.returned⟩
  rw [h'.frame, h.frame]

theorem annotated_told (m : Machine) (note : Note) : Annotated m (Console.tell note m) := ⟨rfl, rfl⟩

theorem annotated_refuse (m : Machine) (point : Entrypoint) (call : Call) (code : ResultCode) :
    Annotated m (m.refuse point call code) :=
  ⟨rfl, (sameStock_refuse m point call code).returned⟩

theorem annotated_named (m : Machine) (objectType : UInt32) (handle : Handle) (name : String) :
    Annotated m (m.named objectType handle name) :=
  ⟨rfl, (Step.named m objectType handle name).sameStock.returned⟩

theorem Annotated.sameStock (h : Annotated m m₁) : SameStock m m₁ := by
  obtain ⟨frame, returned⟩ := h
  rw [frame]
  rw [frame] at returned
  exact ⟨rfl, rfl, .refl _, returned, Nat.le_refl _, rfl⟩

/-- A machine on which names were attached, or refused. -/
structure Labelled (m : Machine) (names : List Event) (m' : Machine) : Prop where
  annotated : Annotated m m'
  trace : m'.trace.toList = m.trace.toList ++ names
  naming : ∀ event ∈ names, event.call.isNaming = true

theorem Annotated.labelled (h : Annotated m m₁) (trace : m₁.trace = m.trace) : Labelled m [] m₁ :=
  ⟨h, by rw [trace, List.append_nil], nofun⟩

theorem Labelled.told {names : List Event} (h : Labelled m names m₁) (note : Note) :
    Labelled m names (Console.tell note m₁) :=
  ⟨h.annotated.trans (annotated_told m₁ note), h.trace, h.naming⟩

end Machine

open Machine (Annotated Labelled)

namespace BoundBuffer

/-- Naming an object is always answered, and at most noted. -/
theorem ends_nameObject_labelled (device : Device) (objectType : UInt32) (handle : Handle) (name : String)
    (m : Machine) :
    (device.nameObject objectType handle name).Ends m fun r m' => ∃ answer names, r = .ok answer ∧
      Labelled m names m' := by
  have attached : (Machine.nameObject objectType handle name).Ends m fun r m' => ∃ answer names, r = .ok answer ∧
      Labelled m names m' := by
    rw [Machine.ends_nameObject]
    cases m.fault .nameObject with
    | some code => exact ⟨_, [_], rfl, Machine.annotated_refuse .., Array.toList_push, by simp [Call.isNaming]⟩
    | none => exact ⟨_, [_], rfl, Machine.annotated_named .., Array.toList_push, by simp [Call.isNaming]⟩
  unfold Device.nameObject
  rcases device.route with _ | _ | _
  · exact attached
  · exact ⟨_, [], rfl, Annotated.labelled (.refl m) rfl⟩
  · rw [ends_ite]
    split
    · rw [ends_bind, ends_log]
      exact ⟨_, [], rfl, (Annotated.labelled (.refl m) rfl).told _⟩
    · exact attached

/-- Attaching a name cannot fail, and a name that is refused is noted. -/
theorem ends_attachName_labelled (device : Device) (handle : Handle) (name : String) (m : Machine) :
    (attachName device handle name).Ends m fun r m' => ∃ names, r = .ok () ∧ Labelled m names m' := by
  rw [attachName, ends_bind]
  refine (ends_nameObject_labelled ..).mono fun r m' h => ?_
  obtain ⟨_ | _, names, rfl, labelled⟩ := h
  · exact ⟨names, rfl, labelled.told _⟩
  · exact ⟨names, rfl, labelled⟩

/-- The failure of a creation at a call that was refused. -/
def refusal (point : Entrypoint) (code : ResultCode) : Failure :=
  .error (.configuration (.callFailed point.symbol code))

/-- The courses of a creation: its events, how it ends, and the machine that it leaves. -/
inductive Creation (device : Device) (spec : BufferSpec) (m : Machine) :
    List Event → Except Failure BoundBuffer → Machine → Prop where
  | refused {code : ResultCode} (fault : m.fault .createBuffer = some code) :
    Creation device spec m [⟨spec.creating, .failed code⟩] (.error (refusal .createBuffer code))
      (m.refuse .createBuffer spec.creating code)
  /-- No memory type will do, and the buffer is destroyed again. -/
  | homeless (made : m.fault .createBuffer = none)
      (missing : MemoryType.find? device.memoryTypes m.profile.typeBits spec.properties = none) :
    Creation device spec m
      [⟨spec.creating, .handle (m.lastHandle + 1)⟩, ⟨.destroyBuffer (m.lastHandle + 1), .done⟩]
      (.error (.error (.configuration (.noMemoryType m.profile.typeBits spec.properties))))
      ((m.buffered spec.size spec.usage spec.sharing).destroyed (m.lastHandle + 1))
  | unallocated {memoryType : Nat} {code : ResultCode} (made : m.fault .createBuffer = none)
      (found : MemoryType.find? device.memoryTypes m.profile.typeBits spec.properties = some memoryType)
      (fault : m.fault .allocateMemory = some code) :
    Creation device spec m
      [⟨spec.creating, .handle (m.lastHandle + 1)⟩,
        ⟨.allocateMemory (Machine.requirement m.profile spec.size) memoryType, .failed code⟩,
        ⟨.destroyBuffer (m.lastHandle + 1), .done⟩]
      (.error (refusal .allocateMemory code))
      (((m.buffered spec.size spec.usage spec.sharing).refuse .allocateMemory
        (.allocateMemory (Machine.requirement m.profile spec.size) memoryType) code).destroyed (m.lastHandle + 1))
  | unbound {memoryType : Nat} {code : ResultCode} (made : m.fault .createBuffer = none)
      (found : MemoryType.find? device.memoryTypes m.profile.typeBits spec.properties = some memoryType)
      (allocated : m.fault .allocateMemory = none) (fault : m.fault .bindBufferMemory = some code) :
    Creation device spec m
      [⟨spec.creating, .handle (m.lastHandle + 1)⟩,
        ⟨.allocateMemory (Machine.requirement m.profile spec.size) memoryType, .handle (m.lastHandle + 2)⟩,
        ⟨.bindBufferMemory (m.lastHandle + 1) (m.lastHandle + 2), .failed code⟩,
        ⟨.destroyBuffer (m.lastHandle + 1), .done⟩, ⟨.freeMemory (m.lastHandle + 2), .done⟩]
      (.error (refusal .bindBufferMemory code))
      (((((m.buffered spec.size spec.usage spec.sharing).allocated
        (Machine.requirement m.profile spec.size) memoryType).refuse .bindBufferMemory
          (.bindBufferMemory (m.lastHandle + 1) (m.lastHandle + 2)) code).destroyed
            (m.lastHandle + 1)).freed (m.lastHandle + 2))
  /-- The buffer is made and bound. Whether its name can be attached does not matter. -/
  | created {memoryType : Nat} {names : List Event} {m' : Machine} (made : m.fault .createBuffer = none)
      (found : MemoryType.find? device.memoryTypes m.profile.typeBits spec.properties = some memoryType)
      (allocated : m.fault .allocateMemory = none) (bound : m.fault .bindBufferMemory = none)
      (labelled : Labelled (BoundBuffer.made m spec (Machine.requirement m.profile spec.size) memoryType) names m') :
    Creation device spec m
      (⟨spec.creating, .handle (m.lastHandle + 1)⟩ ::
        ⟨.allocateMemory (Machine.requirement m.profile spec.size) memoryType, .handle (m.lastHandle + 2)⟩ ::
        ⟨.bindBufferMemory (m.lastHandle + 1) (m.lastHandle + 2), .done⟩ :: names)
      (.ok ⟨m.lastHandle + 1, m.lastHandle + 2, spec, Machine.requirement m.profile spec.size⟩) m'

theorem ends_create_creation (device : Device) (spec : BufferSpec) (m : Machine) :
    (create device spec).Ends m fun r m' => ∃ more, Creation device spec m more r m' := by
  have asked : (((m.buffered spec.size spec.usage spec.sharing).bufferSizes.get? (m.lastHandle + 1)).getD 0) =
      spec.size := congrArg (Option.getD · 0) (Table.get?_insert_self ..)
  have allocates : (m.buffered spec.size spec.usage spec.sharing).fault .allocateMemory = m.fault .allocateMemory :=
    m.fault_tallied (by decide)
  rw [create, ends_bind, ends_orFatal, Machine.ends_createBuffer]
  cases made : m.fault .createBuffer with
  | some code => exact ⟨_, .refused made⟩
  | none =>
    dsimp only
    rw [ends_bind, Machine.ends_memoryRequirement, asked]
    dsimp only
    rw [ends_bind, ends_onFailure, allocate]
    -- Making the buffer has left the profile alone.
    have profile : (m.buffered spec.size spec.usage spec.sharing).profile = m.profile := rfl
    rw [profile]
    cases found : MemoryType.find? device.memoryTypes m.profile.typeBits spec.properties with
    | none => exact ⟨_, .homeless made found⟩
    | some memoryType =>
      dsimp only
      rw [ends_orFatal, Machine.ends_allocateMemory, allocates]
      cases allocated : m.fault .allocateMemory with
      | some code => exact ⟨_, .unallocated made found allocated⟩
      | none =>
        have binds : ((m.buffered spec.size spec.usage spec.sharing).allocated
            (Machine.requirement m.profile spec.size) memoryType).fault .bindBufferMemory =
              m.fault .bindBufferMemory :=
          (Machine.fault_tallied _ (by decide)).trans (m.fault_tallied (by decide))
        dsimp only
        rw [ends_bind, ends_onFailure, ends_orFatal, Machine.ends_bindBufferMemory, binds]
        cases bound : m.fault .bindBufferMemory with
        | some code => exact ⟨_, .unbound made found allocated bound⟩
        | none =>
          have created {names : List Event} {m' : Machine}
              (labelled : Labelled (BoundBuffer.made m spec (Machine.requirement m.profile spec.size) memoryType)
                names m') (note : Note) : ∃ more, Creation device spec m more
                  (.ok ⟨m.lastHandle + 1, m.lastHandle + 2, spec, Machine.requirement m.profile spec.size⟩)
                  (Console.tell note m') :=
            ⟨_, .created made found allocated bound (labelled.told note)⟩
          dsimp only
          cases spec.name with
          | none =>
            dsimp only
            rw [ends_bind, ends_log]
            exact created (Annotated.labelled (.refl _) rfl) _
          | some name =>
            dsimp only
            rw [ends_bind]
            refine (ends_attachName_labelled device _ name _).mono fun r m' h => ?_
            obtain ⟨names, rfl, labelled⟩ := h
            dsimp only
            rw [ends_bind, ends_log]
            exact created labelled _

section Creation

variable {device : Device} {spec : BufferSpec} {m m' : Machine} {more : List Event}
  {r : Except Failure BoundBuffer}

theorem Creation.trace (creation : Creation device spec m more r m') :
    m'.trace.toList = m.trace.toList ++ more := by
  cases creation with
  | created made found allocated bound labelled =>
    rw [labelled.trace, BoundBuffer.made]
    simp [BufferSpec.creating]
  | refused | homeless | unallocated | unbound => simp [BufferSpec.creating]

end Creation

end BoundBuffer

/-! ## The outcome -/

open MemoryType (Suitable)

/-- What a creation asked for, and what has come of it. -/
structure StagedBuffer.Outcome (types : List UInt32) (spec : BufferSpec) (m : Machine) (more : List Event)
    (r : Except Failure StagedBuffer) : Prop where
  asksOnce : (more.filterMap Event.allocation?).length ≤ 1
  /-- Memory is asked for as the machine requires it, and of the first type that will do. -/
  asks : ∀ a ∈ more.filterMap Event.allocation?, a.1 = Machine.requirement m.profile spec.size ∧
    IsLeast {i | Suitable types m.profile.typeBits spec.properties i} a.2
  asksNothing : (∀ i, ¬Suitable types m.profile.typeBits spec.properties i) → more.filterMap Event.allocation? = []
  /-- It succeeds when no call is refused and some type will do, and only then. -/
  succeeds : (∃ b, r = .ok b) ↔ m.fault .createBuffer = none ∧ m.fault .allocateMemory = none ∧
    m.fault .bindBufferMemory = none ∧ ∃ i, Suitable types m.profile.typeBits spec.properties i
  sizes : ∀ b, r = .ok b → b.requestedSize = spec.size ∧
    b.main.actualSize = Machine.requirement m.profile spec.size
  /-- What was made belongs to the buffer, and nothing of it is given back. -/
  kept : ∀ b, r = .ok b → more.filterMap Event.createdBuffer? = [b.main.handle] ∧
    more.filterMap Event.allocatedMemory? = [b.main.memory] ∧ more.filterMap Event.destroyedBuffer? = [] ∧
    more.filterMap Event.freedMemory? = []
  fatal : ∀ f, r = .error f → ∃ e, f = .error e ∧ e.isFatal = true
  /-- One that fails destroys the buffer and frees the memory that it got, each once, and nothing else. -/
  givesBack : ∀ f, r = .error f → more.filterMap Event.destroyedBuffer? = more.filterMap Event.createdBuffer? ∧
    more.filterMap Event.freedMemory? = more.filterMap Event.allocatedMemory?
  createsOnce : (more.filterMap Event.createdBuffer?).length ≤ 1

namespace BoundBuffer

variable {device : Device} {spec : BufferSpec} {m m' : Machine} {more : List Event}
  {r : Except Failure BoundBuffer}

/-- What is looked for in events that only attach names is not found. -/
theorem filterMap_naming {β : Type} {f : Event → Option β} {names : List Event}
    (naming : ∀ event ∈ names, event.call.isNaming = true)
    (silent : ∀ objectType handle name reply, f ⟨.nameObject objectType handle name, reply⟩ = none) :
    names.filterMap f = [] := by
  refine List.filterMap_eq_nil_iff.2 fun event hmem => ?_
  have isNaming := naming event hmem
  rcases event with ⟨call, reply⟩
  cases call with
  | nameObject objectType handle name => exact silent objectType handle name reply
  | _ => cases isNaming

/-- A request for memory that is made as it should be names a type that will do. -/
theorem asksNothing_of_asks {types : List UInt32} {asked : List (UInt64 × Nat)}
    (asks : ∀ a ∈ asked, a.1 = Machine.requirement m.profile spec.size ∧
      IsLeast {i | Suitable types m.profile.typeBits spec.properties i} a.2)
    (missing : ∀ i, ¬Suitable types m.profile.typeBits spec.properties i) : asked = [] :=
  List.eq_nil_iff_forall_not_mem.2 fun a hmem => missing a.2 (asks a hmem).2.1

/-- A course that fails: it was stopped somewhere, its error is fatal, and it gave back what it got. -/
theorem outcome_of_error {types : List UInt32} {e : Error} {asked : List (UInt64 × Nat)} {made got : List Handle}
    (stopped : ¬(m.fault .createBuffer = none ∧ m.fault .allocateMemory = none ∧ m.fault .bindBufferMemory = none ∧
      ∃ i, Suitable types m.profile.typeBits spec.properties i)) (fatal : e.isFatal = true)
    (asking : more.filterMap Event.allocation? = asked) (asksOnce : asked.length ≤ 1)
    (asks : ∀ a ∈ asked, a.1 = Machine.requirement m.profile spec.size ∧
      IsLeast {i | Suitable types m.profile.typeBits spec.properties i} a.2)
    (created : more.filterMap Event.createdBuffer? = made) (createsOnce : made.length ≤ 1)
    (destroyed : more.filterMap Event.destroyedBuffer? = made)
    (allocated : more.filterMap Event.allocatedMemory? = got) (freed : more.filterMap Event.freedMemory? = got) :
    StagedBuffer.Outcome types spec m more (.error (.error e)) where
  asksOnce := asking ▸ asksOnce
  asks := asking ▸ asks
  asksNothing missing := asking.trans (asksNothing_of_asks asks missing)
  succeeds := iff_of_false nofun stopped
  sizes := nofun
  kept := nofun
  fatal _ h := ⟨e, (Except.error.inj h).symm, fatal⟩
  givesBack _ _ := ⟨destroyed.trans created.symm, freed.trans allocated.symm⟩
  createsOnce := created ▸ createsOnce

/-- Every course of a creation has the outcome that it should have. -/
theorem Creation.outcome (creation : Creation device spec m more r m') :
    StagedBuffer.Outcome device.memoryTypes spec m more (r.map fun main => { main }) := by
  have asks {memoryType : Nat}
      (found : MemoryType.find? device.memoryTypes m.profile.typeBits spec.properties = some memoryType) :
      ∀ a ∈ [(Machine.requirement m.profile spec.size, memoryType)], a.1 = Machine.requirement m.profile spec.size ∧
        IsLeast {i | Suitable device.memoryTypes m.profile.typeBits spec.properties i} a.2 :=
    fun a hmem => List.mem_singleton.1 hmem ▸ ⟨rfl, MemoryType.find?_eq_some_iff.1 found⟩
  cases creation with
  | refused fault =>
    refine outcome_of_error (fun ⟨made, _⟩ => ?_) rfl rfl (Nat.zero_le 1) nofun rfl (Nat.zero_le 1) rfl rfl rfl
    exact nomatch fault.symm.trans made
  | homeless made missing =>
    refine outcome_of_error (fun ⟨_, _, _, i, suitable⟩ => ?_) rfl rfl (Nat.zero_le 1) nofun rfl (Nat.le_refl 1) rfl
      rfl rfl
    exact MemoryType.find?_eq_none_iff.1 missing i suitable
  | unallocated made found fault =>
    refine outcome_of_error (fun ⟨_, allocated, _⟩ => ?_) rfl rfl (Nat.le_refl 1) (asks found) rfl (Nat.le_refl 1) rfl
      rfl rfl
    exact nomatch fault.symm.trans allocated
  | unbound made found allocated fault =>
    refine outcome_of_error (fun ⟨_, _, bound, _⟩ => ?_) rfl rfl (Nat.le_refl 1) (asks found) rfl (Nat.le_refl 1) rfl
      rfl rfl
    exact nomatch fault.symm.trans bound
  | @created memoryType names _ made found allocated bound labelled =>
    have quiet {β : Type} {f : Event → Option β}
        (silent : ∀ objectType handle name reply, f ⟨.nameObject objectType handle name, reply⟩ = none) :=
      filterMap_naming labelled.naming silent
    have asking : List.filterMap Event.allocation?
        (⟨spec.creating, .handle (m.lastHandle + 1)⟩ ::
          ⟨.allocateMemory (Machine.requirement m.profile spec.size) memoryType, .handle (m.lastHandle + 2)⟩ ::
          ⟨.bindBufferMemory (m.lastHandle + 1) (m.lastHandle + 2), .done⟩ :: names) =
        [(Machine.requirement m.profile spec.size, memoryType)] :=
      congrArg ((_, memoryType) :: ·) (quiet fun _ _ _ _ => rfl)
    have least := MemoryType.find?_eq_some_iff.1 found
    exact
      { asksOnce := asking ▸ Nat.le_refl 1
        asks := asking ▸ asks found
        asksNothing := fun missing => asking.trans (asksNothing_of_asks (asks found) missing)
        succeeds := iff_of_true ⟨_, rfl⟩ ⟨made, allocated, bound, memoryType, least.1⟩
        sizes := by
          rintro _ ⟨⟩
          exact ⟨rfl, rfl⟩
        kept := by
          rintro _ ⟨⟩
          refine ⟨congrArg (_ :: ·) ?_, congrArg (_ :: ·) ?_, ?_, ?_⟩ <;> exact quiet fun _ _ _ _ => rfl
        fatal := nofun
        givesBack := nofun
        createsOnce := by
          have created := congrArg ((m.lastHandle + 1) :: ·)
            (quiet (f := Event.createdBuffer?) fun _ _ _ _ => rfl)
          exact Nat.le_of_eq (congrArg List.length created) }

end BoundBuffer

/-- Whatever the table, the filter, the properties, the size and the calls that are refused, a creation has
the outcome that it should have. -/
theorem StagedBuffer.ends_create_outcome (spec : BufferSpec) (s : Session) :
    (create spec).Ends s fun r s' => s'.pool = s.pool ∧ ∃ more,
      s'.machine.trace.toList = s.machine.trace.toList ++ more ∧
        Outcome s.pool.device.memoryTypes spec s.machine more r := by
  rw [create, ends_bind, Session.ends_getPool]
  dsimp only
  rw [ends_bind, Session.ends_lift]
  refine (BoundBuffer.ends_create_creation s.pool.device spec s.machine).mono fun r m h => ?_
  obtain ⟨more, creation⟩ := h
  cases r <;> exact ⟨rfl, more, creation.trace, creation.outcome⟩

end CopyBench
