import CopyBench.Proofs.Buffer.Bound
import CopyBench.Proofs.Machine.Upkeep
/-!
# Buffers whatever fails

Making, mapping and releasing buffers is upkeep, also where calls fail on the way. A buffer that was
made is bound until it is released.
-/

namespace CopyBench

open CopyBench.Action CopyBench.Machine

/-- A buffer is bound to its memory. -/
structure Machine.Binds (m : Machine) (b : BoundBuffer) : Prop where
  binding : m.bindings.get? b.handle = some b.memory
  handle_le : b.handle ≤ m.lastHandle

namespace BoundBuffer

variable {m m' : Machine} {b : BoundBuffer} {touched : List Handle} {more events : List Event}

theorem binds_upkeep (h : m.Binds b) (upkeep : Upkeep m touched more m') (hnot : b.handle ∉ touched) :
    m'.Binds b := by
  refine ⟨?_, Nat.le_trans h.handle_le upkeep.lastHandle⟩
  rcases upkeep.bindings _ h.handle_le with same | ⟨htouched, -⟩
  · rw [same, h.binding]
  · exact absurd htouched hnot

/-- A buffer that is bound was not destroyed. -/
theorem not_destroyed {start : Machine} (orderly : Orderly start events m) (h : m.Binds b) :
    ¬Destroyed events b.handle := by
  intro hgone
  have hbinding := h.binding
  rw [(orderly.gone _ hgone).1] at hbinding
  cases hbinding

/-! ## Making and releasing one -/

theorem upkeep_buffered (m : Machine) (size : UInt64) (usage : UInt32) (sharing : Int) :
    Upkeep m [] [⟨.createBuffer size usage sharing, .handle (m.lastHandle + 1)⟩]
      (m.buffered size usage sharing) :=
  upkeep_event (plain_of_inert trivial) rfl rfl (Nat.le_succ _) rfl

theorem upkeep_allocated (m : Machine) (size : UInt64) (memoryType : Nat) :
    Upkeep m [] [⟨.allocateMemory size memoryType, .handle (m.lastHandle + 1)⟩]
      (m.allocated size memoryType) :=
  upkeep_event (plain_of_inert trivial) rfl rfl (Nat.le_succ _) rfl

/-- Binding a buffer that is new, and that was not destroyed on the way. -/
theorem upkeep_bound (upkeep : Upkeep m touched more m') {handle : Handle} (memory : Handle)
    (new : m.lastHandle < handle) (alive : ¬Destroyed more handle) :
    Upkeep m touched (more ++ [⟨.bindBufferMemory handle memory, .done⟩]) (m'.bound handle memory) := by
  have other (h : Handle) (hne : h ≠ handle) : (m'.bound handle memory).bindings.get? h =
      m'.bindings.get? h := Table.get?_insert_of_ne _ _ hne
  refine ⟨?_, fun event hmem => ?_, upkeep.recorded, upkeep.lastHandle, fun h hle => ?_, fun h hgone => ?_⟩
  · change (m'.trace.push _).toList = _
    rw [Array.toList_push, upkeep.trace, List.append_assoc]
  · rcases List.mem_append.1 hmem with hmem | hmem
    · exact upkeep.plain event hmem
    · rw [List.mem_singleton.1 hmem]
      exact plain_of_inert trivial
  · rw [other h (Nat.ne_of_lt (Nat.lt_of_le_of_lt hle new))]
    exact upkeep.bindings h hle
  · rcases List.mem_append.1 hgone with hold | hnew
    · rw [other h fun heq => alive (heq ▸ hold)]
      exact upkeep.gone h hold
    · cases List.mem_singleton.1 hnew

theorem tends_device_nameObject (device : Device) (objectType : UInt32) (handle : Handle)
    (name : String) : Tends (device.nameObject objectType handle name) := by
  unfold Device.nameObject
  rcases device.route with _ | _ | _
  · exact tends_nameObject objectType handle name
  · exact .pure _
  · exact .ite ((Tends.log _ _).bind fun _ => .pure _) (tends_nameObject objectType handle name)

theorem tends_attachName (device : Device) (handle : Handle) (name : String) :
    Tends (attachName device handle name) := by
  refine Tends.bind (tends_device_nameObject device _ handle name) fun answer => ?_
  cases answer with
  | ok _ => exact .pure _
  | error code => exact .log _ _

/-- Allocating memory destroys no buffer. -/
theorem ends_allocate_any (device : Device) (size : UInt64) (typeBits required : UInt32) (m : Machine) :
    (allocate device size typeBits required).Ends m fun r m' => ∃ more, Upkeep m [] more m' ∧
      (∀ f, r = .error f → f.Discreet) ∧ ∀ h, ¬Destroyed more h := by
  unfold allocate
  cases MemoryType.find? device.memoryTypes typeBits required with
  | none => exact ⟨[], .refl m, by rintro f ⟨⟩; exact discreet_configuration _, by simp [Destroyed]⟩
  | some memoryType =>
    dsimp only
    rw [ends_orFatal, ends_allocateMemory]
    cases m.fault .allocateMemory with
    | some code =>
      refine ⟨_, upkeep_refuse m .allocateMemory (.allocateMemory size memoryType) code, ?_,
        by simp [Destroyed]⟩
      rintro f ⟨⟩
      exact discreet_configuration _
    | none => exact ⟨_, upkeep_allocated m size memoryType, by simp, by simp [Destroyed]⟩

/-- What an attempt to make a buffer leaves: upkeep, and when it succeeds a new buffer that is bound. -/
def Makes (m : Machine) (r : Except Failure BoundBuffer) (m' : Machine) : Prop :=
  ∃ more, Upkeep m [] more m' ∧ (∀ f, r = .error f → f.Discreet) ∧
    ∀ b, r = .ok b → m'.Binds b ∧ m.lastHandle < b.handle

theorem Makes.failed {f : Failure} (upkeep : Upkeep m [] more m') (discreet : f.Discreet) :
    Makes m (.error f) m' := by
  refine ⟨more, upkeep, ?_, by simp⟩
  rintro f ⟨⟩
  exact discreet

theorem Makes.made (upkeep : Upkeep m [] more m') (binds : m'.Binds b) (new : m.lastHandle < b.handle) :
    Makes m (.ok b) m' := by
  refine ⟨more, upkeep, by simp, ?_⟩
  rintro b ⟨⟩
  exact ⟨binds, new⟩

/-- A buffer that was made and is destroyed again was upkeep. -/
theorem upkeep_undone {size : UInt64} {usage : UInt32} {sharing : Int}
    (upkeep : Upkeep (m.buffered size usage sharing) [] more m') :
    ∃ more', Upkeep m [] more' (m'.destroyed (m.lastHandle + 1)) := by
  have made := (upkeep_buffered m size usage sharing).trans upkeep
  have gone := (made.weaken (List.nil_subset _)).trans (upkeep_destroyed upkeep.lastHandle)
  refine ⟨_, gone.narrow fun o ho => .inr ?_⟩
  rw [List.mem_singleton.1 ho]
  exact Nat.lt_succ_self _

/-- A buffer that is made is new, and bound. When it cannot be made nothing is left of it. -/
theorem upkeep_create (device : Device) (spec : BufferSpec) (m : Machine) :
    (create device spec).Ends m (Makes m) := by
  rw [create, ends_bind, ends_orFatal, ends_createBuffer]
  cases m.fault .createBuffer with
  | some code =>
    exact .failed (upkeep_refuse m _ (.createBuffer spec.size spec.usage spec.sharing) code)
      (discreet_configuration _)
  | none =>
    dsimp only
    rw [ends_bind, ends_memoryRequirement]
    dsimp only
    rw [ends_bind, ends_onFailure]
    refine (ends_allocate_any device _ _ _ _).mono fun r m₁ h => ?_
    obtain ⟨more, allocated, discreet, spares⟩ := h
    cases r with
    | error f =>
      obtain ⟨_, upkeep⟩ := upkeep_undone allocated
      exact .failed upkeep (discreet f rfl)
    | ok memory =>
      dsimp only
      rw [ends_bind, ends_onFailure, ends_orFatal, ends_bindBufferMemory]
      cases m₁.fault .bindBufferMemory with
      | some code =>
        obtain ⟨_, upkeep⟩ := upkeep_undone (allocated.trans (upkeep_refuse m₁ .bindBufferMemory
          (.bindBufferMemory (m.lastHandle + 1) memory) code))
        exact .failed (upkeep.trans (upkeep_freed _ memory)) (discreet_configuration _)
      | none =>
        have alive : ¬Destroyed ([⟨.createBuffer spec.size spec.usage spec.sharing,
            .handle (m.lastHandle + 1)⟩] ++ more) (m.lastHandle + 1) := by
          simpa [Destroyed] using spares (m.lastHandle + 1)
        have new : m.lastHandle < m.lastHandle + 1 := Nat.lt_succ_self _
        have made := upkeep_bound ((upkeep_buffered m spec.size spec.usage spec.sharing).trans allocated)
          memory new alive
        -- The buffer stays bound, whatever becomes of its name and of the log line.
        have bound {m₂ : Machine} {later : List Event} {size : UInt64}
            (upkeep : Upkeep (m₁.bound (m.lastHandle + 1) memory) [] later m₂) :
            Makes m (.ok ⟨m.lastHandle + 1, memory, spec, size⟩) m₂ := by
          refine .made (made.trans upkeep) (binds_upkeep ?_ upkeep (by simp)) new
          exact ⟨Table.get?_insert_self .., allocated.lastHandle⟩
        dsimp only
        cases spec.name with
        | none =>
          dsimp only
          rw [ends_bind, ends_log]
          exact bound (upkeep_told _ _)
        | some name =>
          dsimp only
          rw [ends_bind]
          refine (tends_attachName device _ name _).mono fun r m₂ h => ?_
          obtain ⟨⟨_, named⟩, discreet⟩ := h
          cases r with
          | error f => exact .failed (made.trans named) (discreet f rfl)
          | ok _ =>
            dsimp only
            rw [ends_bind, ends_log]
            exact bound (named.trans (upkeep_told _ _))

/-- Releasing a buffer destroys it. -/
theorem upkeep_release (hle : b.handle ≤ m.lastHandle) :
    b.release.Ends m fun r m' => r = .ok () ∧ ∃ more, Upkeep m [b.handle] more m' ∧
      Destroyed more b.handle := by
  rw [ends_release]
  exact ⟨rfl, _, (upkeep_destroyed hle).trans ((upkeep_freed _ _).weaken (List.nil_subset _)), by simp [Destroyed]⟩

/-! ## Mapping one -/

theorem tends_map (b : BoundBuffer) (offset size : UInt64) : Tends (b.map offset size) := by
  unfold map
  refine .ite (((tends_mapMemory b.memory offset _).orOperational ?_).bind fun _ => .pure _) (.fail ?_)
  · simp [Entrypoint.interrupting, Entrypoint.symbol]
  · exact ⟨_, rfl, by rintro ⟨point, -, code, h⟩; cases h⟩

end BoundBuffer

end CopyBench
