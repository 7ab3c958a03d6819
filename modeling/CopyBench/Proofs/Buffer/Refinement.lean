import CopyBench.Proofs.Buffer.Mirror
import CopyBench.Proofs.Pool.Creation
/-!
# Workspaces refine stores

On a reliable machine every request that a store allows is answered as the store answers it, and
leaves the buffers looking like the store's cells. A workspace whose pool was just made looks like an empty
store, however deep the pool is.
-/

namespace CopyBench

open CopyBench.Action

namespace Workspace

variable {α : Type}

/-! ## Steps of a workspace -/

@[simp] theorem ends_onSession (act : Action Session α) (w : Workspace)
    (Q : Except Failure α → Workspace → Prop) :
    Ends (onSession act) w Q ↔ act.Ends w.session fun r s => Q r { w with session := s } := by
  unfold Ends onSession
  dsimp only
  rcases act w.session with ⟨a, s⟩ | ⟨f, s⟩ <;> rfl

@[simp] theorem ends_held (name : String) (w : Workspace)
    (Q : Except Failure (Option StagedBuffer) → Workspace → Prop) :
    Ends (held name) w Q ↔ Q (.ok (w.buffers.get? name)) w := Iff.rfl

/-- What is done with the buffer held under a name, if there is one. -/
theorem ends_held_cases {name : String} {w : Workspace} {f : Option StagedBuffer → Action Workspace α}
    {Q : Except Failure α → Workspace → Prop} (absent : w.buffers.get? name = none → (f none).Ends w Q)
    (found : ∀ b, w.buffers.get? name = some b → (f (some b)).Ends w Q) : (held name >>= f).Ends w Q := by
  rw [ends_bind, ends_held]
  cases hb : w.buffers.get? name with
  | none => exact absent hb
  | some b => exact found b hb

@[simp] theorem ends_hold (name : String) (buffer : StagedBuffer) (w : Workspace)
    (Q : Except Failure Unit → Workspace → Prop) :
    Ends (hold name buffer) w Q ↔ Q (.ok ()) { w with buffers := w.buffers.insert name buffer } := Iff.rfl

/-- The buffer is held as the fill leaves it, also when the fill fails. -/
theorem ends_fill (name : String) (b : StagedBuffer) (contents : Contents) (discard : Bool) (w : Workspace)
    (Q : Except Failure Unit → Workspace → Prop) :
    (fill name b contents discard).Ends w Q ↔ (b.fill contents discard).Ends w.session fun r s =>
      match r with
      | .ok (b', result) => Q result ⟨s, w.buffers.insert name b'⟩
      | .error f => Q (.error f) ⟨s, w.buffers⟩ := by
  rw [fill, ends_bind, ends_onSession]
  refine ends_congr fun r s => ?_
  cases r with
  | error f => exact Iff.rfl
  | ok filled =>
    dsimp only
    rw [ends_bind, ends_hold]
    exact ends_conclude ..

theorem ends_perform_onPool (operation : PoolOperation) (w : Workspace)
    (Q : Except Failure BufferReply → Workspace → Prop) :
    (perform (.onPool operation)).Ends w Q ↔ (Session.perform operation).Ends w.session fun r s =>
      Q (r.map .pool) ⟨s, w.buffers⟩ := by
  rw [perform, ends_bind, ends_onSession]
  refine ends_congr fun r s => ?_
  cases r <;> exact Iff.rfl

/-- The numbers of what is held under a name. -/
def objects (w : Workspace) (name : String) : List Handle :=
  match w.buffers.get? name with
  | none => []
  | some b => b.objects

/-- A workspace looks like a store, on a machine with a memory layout and a device with memory types. -/
structure Reflects (profile : MemoryProfile) (types : List UInt32) (w : Workspace) (store : Store) :
    Prop where
  ready : w.session.Ready
  profile : w.session.machine.profile = profile
  types : w.session.pool.device.memoryTypes = types
  held : ∀ name, Option.Rel (StagedBuffer.Mirrors w.session.machine) (w.buffers.get? name) (store.get? name)
  apart : ∀ name name', name ≠ name' → (w.objects name).Disjoint (w.objects name')

namespace Reflects

variable {profile : MemoryProfile} {types : List UInt32} {w : Workspace} {store : Store}
  {s' : Session} {touched : List Handle} {n : Nat} {name : String} {b : StagedBuffer} {cell : Cell}

/-- A name is held in both, or in neither. -/
theorem cases (h : Reflects profile types w store) (name : String) :
    (w.buffers.get? name = none ∧ store.get? name = none) ∨
      ∃ b cell, w.buffers.get? name = some b ∧ store.get? name = some cell ∧
        StagedBuffer.Mirrors w.session.machine b cell := by
  have hrel := h.held name
  generalize w.buffers.get? name = held, store.get? name = stored at hrel
  cases hrel with
  | none => exact .inl ⟨rfl, rfl⟩
  | some mirrors => exact .inr ⟨_, _, rfl, rfl, mirrors⟩

theorem objects_le (h : Reflects profile types w store) (name : String) :
    ∀ o ∈ w.objects name, o ≤ w.session.machine.lastHandle := by
  unfold objects
  obtain ⟨hnone, -⟩ | ⟨b, cell, hb, -, mirrors⟩ := h.cases name
  · rw [hnone]
    exact fun o ho => absurd ho List.not_mem_nil
  · rw [hb]
    exact mirrors.objects_le

/-- What is held under a name that is not touched goes on looking like its cell. -/
theorem kept (h : Reflects profile types w store) (step : Session.Step w.session s' touched n)
    (apart : (w.objects name).Disjoint touched) :
    Option.Rel (StagedBuffer.Mirrors s'.machine) (w.buffers.get? name) (store.get? name) := by
  unfold objects at apart
  obtain ⟨hb, hcell⟩ | ⟨b, cell, hb, hcell, mirrors⟩ := h.cases name
  · rw [hb, hcell]
    exact .none
  · rw [hb] at apart
    rw [hb, hcell]
    exact .some (mirrors.kept step.toSameSetting step.toKeeps apart)

/-- A step that touches nothing that is held. -/
theorem of_step (h : Reflects profile types w store) (step : Session.Step w.session s' [] n) :
    Reflects profile types { w with session := s' } store :=
  ⟨step.ready, step.profile.trans h.profile, (congrArg (·.memoryTypes) step.device).trans h.types,
    fun _ => h.kept step (by simp), h.apart⟩

/-- A step that touches what is held under a name, and holds something there afterwards that is made
of what was there and of what is new. -/
theorem insert (h : Reflects profile types w store) (step : Session.Step w.session s' touched n)
    (own : touched ⊆ w.objects name) (mirrors : StagedBuffer.Mirrors s'.machine b cell)
    (within : ∀ o ∈ b.objects, o ∈ w.objects name ∨ w.session.machine.lastHandle < o) :
    Reflects profile types ⟨s', w.buffers.insert name b⟩ (store.insert name cell) := by
  have objects_self : (Workspace.mk s' (w.buffers.insert name b)).objects name = b.objects := by
    simp [objects]
  have objects_of_ne {name' : String} (hne : name' ≠ name) :
      (Workspace.mk s' (w.buffers.insert name b)).objects name' = w.objects name' := by
    simp only [objects, Table.get?_insert_of_ne _ _ hne]
  -- Something held under another name is neither among what was here nor new.
  have fresh {name' : String} (hne : name' ≠ name) : (w.objects name').Disjoint b.objects := by
    intro o ho ho'
    rcases within o ho' with hold | hnew
    · exact h.apart name' name hne ho hold
    · exact Nat.not_lt.2 (h.objects_le name' o ho) hnew
  refine ⟨step.ready, step.profile.trans h.profile, (congrArg (·.memoryTypes) step.device).trans h.types,
    fun name' => ?_, fun name₁ name₂ hne => ?_⟩
  · by_cases hname : name' = name
    · subst hname
      rw [Table.get?_insert_self, Table.get?_insert_self]
      exact .some mirrors
    · rw [Table.get?_insert_of_ne _ _ hname, Table.get?_insert_of_ne _ _ hname]
      exact h.kept step fun o ho ho' => h.apart name' name hname ho (own ho')
  · by_cases h₁ : name₁ = name
    · subst h₁
      rw [objects_self, objects_of_ne hne.symm]
      exact fun o ho ho' => fresh hne.symm ho' ho
    · by_cases h₂ : name₂ = name
      · subst h₂
        rw [objects_self, objects_of_ne h₁]
        exact fresh h₁
      · rw [objects_of_ne h₁, objects_of_ne h₂]
        exact h.apart name₁ name₂ hne

/-- Which buffers are held matters, and nothing else about their table. -/
theorem congr {buffers : Table String StagedBuffer} (h : Reflects profile types w store)
    (same : ∀ name, buffers.get? name = w.buffers.get? name) :
    Reflects profile types { w with buffers } store := by
  refine ⟨h.ready, h.profile, h.types, fun name => ?_, fun name₁ name₂ hne => ?_⟩
  · rw [same]
    exact h.held name
  · simp only [objects, same]
    exact h.apart name₁ name₂ hne

/-- A step that touches what is held under a name, and leaves it there with other bytes. -/
theorem update (h : Reflects profile types w store) (step : Session.Step w.session s' touched n)
    (hb : w.buffers.get? name = some b) (own : touched ⊆ b.objects)
    (mirrors : StagedBuffer.Mirrors s'.machine b cell) :
    Reflects profile types { w with session := s' } (store.insert name cell) := by
  have hobjects : w.objects name = b.objects := by rw [objects, hb]
  refine (h.insert step (hobjects ▸ own) mirrors fun o ho => .inl (hobjects ▸ ho)).congr fun name' => ?_
  by_cases hname : name' = name
  · rw [hname, Table.get?_insert_self, hb]
  · exact (Table.get?_insert_of_ne _ _ hname).symm

/-- A step that touches what is held under a name, and holds nothing there afterwards. -/
theorem erase (h : Reflects profile types w store) (step : Session.Step w.session s' touched n)
    (own : touched ⊆ w.objects name) :
    Reflects profile types ⟨s', w.buffers.erase name⟩ (store.erase name) := by
  have sub (name' : String) : (Workspace.mk s' (w.buffers.erase name)).objects name' ⊆ w.objects name' := by
    by_cases hname : name' = name
    · subst hname
      simp [objects]
    · simp only [objects, Table.get?_erase_of_ne _ hname]
      exact List.Subset.refl _
  refine ⟨step.ready, step.profile.trans h.profile, (congrArg (·.memoryTypes) step.device).trans h.types,
    fun name' => ?_, fun name₁ name₂ hne o ho ho' => h.apart name₁ name₂ hne (sub _ ho) (sub _ ho')⟩
  by_cases hname : name' = name
  · subst hname
    rw [Table.get?_erase_self, Table.get?_erase_self]
    exact .none
  · rw [Table.get?_erase_of_ne _ hname, Table.get?_erase_of_ne _ hname]
    exact h.kept step fun o ho ho' => h.apart name' name hname ho (own ho')

end Reflects

/-! ## Requests -/

/-- How a request ends: it is answered as the store answers, it executes the copies it asks for, and
the workspace looks like the store after the request. -/
def Follows (profile : MemoryProfile) (types : List UInt32) (w : Workspace) (store : Store)
    (request : BufferRequest) (r : Except Failure BufferReply) (w' : Workspace) : Prop :=
  ∃ reply, r = .ok reply ∧ reply.summary = (store.perform profile request).1 ∧
    Reflects profile types w' (store.perform profile request).2 ∧
    w'.session.machine.counters.copiesExecuted =
      w.session.machine.counters.copiesExecuted + store.copies request

section Requests

variable {profile : MemoryProfile} {types : List UInt32} {w w' : Workspace} {store store' : Store}
  {name : String} {b : StagedBuffer} {cell : Cell} {n : Nat}

theorem follows_of {request : BufferRequest} {reply : BufferReply}
    (hperform : store.perform profile request = (reply.summary, store')) (hcopies : store.copies request = n)
    (reflects : Reflects profile types w' store')
    (hcount : w'.session.machine.counters.copiesExecuted =
      w.session.machine.counters.copiesExecuted + n) :
    Follows profile types w store request (.ok reply) w' := by
  refine ⟨reply, rfl, ?_, ?_, ?_⟩
  · rw [hperform]
  · rw [hperform]
    exact reflects
  · rw [hcopies, hcount]

/-- A request that names something that is not held changes nothing. -/
theorem follows_idle {request : BufferRequest} {reply : BufferReply} (reflects : Reflects profile types w store)
    (hperform : store.perform profile request = (reply.summary, store))
    (hcopies : store.copies request = 0) : Follows profile types w store request (.ok reply) w :=
  follows_of hperform hcopies reflects rfl

/-- What is done with the buffer held under a name, which looks like the cell under that name. -/
theorem ends_held_reflected {α : Type} {f : Option StagedBuffer → Action Workspace α}
    {Q : Except Failure α → Workspace → Prop} (reflects : Reflects profile types w store) (name : String)
    (absent : store.get? name = none → (f none).Ends w Q)
    (found : ∀ b cell, w.buffers.get? name = some b → store.get? name = some cell →
      StagedBuffer.Mirrors w.session.machine b cell → (f (some b)).Ends w Q) : (held name >>= f).Ends w Q := by
  refine ends_held_cases (fun hb => ?_) fun b hb => ?_
  all_goals obtain ⟨hb', hcell⟩ | ⟨b', cell, hb', hcell, mirrors⟩ := reflects.cases name
  · exact absent hcell
  · cases hb.symm.trans hb'
  · cases hb.symm.trans hb'
  · cases hb.symm.trans hb'
    exact found b cell hb hcell mirrors

/-- A buffer shows what its cell shows. -/
theorem summary_buffer {m : Machine} (mirrors : StagedBuffer.Mirrors m b cell) :
    (BufferReply.buffer b).summary = cell.summary := by
  have hstaged : b.staging.isSome = cell.staged.isSome := by
    have hrel := mirrors.staging
    generalize b.staging = staging, cell.staged = staged at hrel
    cases hrel <;> rfl
  rw [BufferReply.summary, Cell.summary, mirrors.spec, mirrors.main.length, hstaged, mirrors.stagingWrites]

theorem ends_releaseBuffer_ok (b : StagedBuffer) (w : Workspace) (ready : w.session.Ready) :
    (releaseBuffer b).Ends w fun r w' => ∃ s', r = .ok () ∧ w' = { w with session := s' } ∧
      Session.Step w.session s' b.objects 0 := by
  rw [releaseBuffer, ends_onSession, Session.ends_onMachine]
  refine (StagedBuffer.ends_release_ok b _).mono fun r m h => ?_
  obtain ⟨rfl, hlocal⟩ := h
  exact ⟨_, rfl, rfl, .of_local ready hlocal⟩

theorem follows_create (reflects : Reflects profile types w store) (spec : BufferSpec)
    (allowed : store.Allows profile types (.create name spec)) :
    (perform (.create name spec)).Ends w (Follows profile types w store (.create name spec)) := by
  obtain ⟨found, enough⟩ := allowed
  rw [perform, ends_bind, ends_onSession]
  refine (StagedBuffer.ends_create_ok reflects.ready ?_ ?_).mono fun r s₁ h => ?_
  · rw [reflects.types, reflects.profile]
    exact found
  · rw [reflects.profile]
    exact enough
  obtain ⟨b, rfl, step, mirrors, hnew⟩ := h
  rw [reflects.profile] at mirrors
  dsimp only
  rw [ends_bind, ends_held]
  dsimp only
  obtain ⟨hb, hcell⟩ | ⟨replaced, cell, hb, hcell, mirrors'⟩ := reflects.cases name
  · rw [hb]
    dsimp only
    rw [ends_bind, ends_hold]
    refine ⟨_, rfl, summary_buffer mirrors, ?_, step.copiesExecuted⟩
    exact reflects.insert step (List.nil_subset _) mirrors fun o ho => .inr (hnew o ho)
  · rw [hb]
    dsimp only
    rw [ends_bind, ends_hold]
    dsimp only
    rw [ends_bind]
    refine (ends_releaseBuffer_ok replaced _ step.ready).mono fun r w₂ h => ?_
    obtain ⟨s₂, rfl, rfl, released⟩ := h
    have hobjects : w.objects name = replaced.objects := by rw [objects, hb]
    have both := (step.weaken (List.nil_subset _)).trans released
    have apart : b.objects.Disjoint replaced.objects := fun o ho ho' =>
      Nat.not_lt.2 (mirrors'.objects_le o ho') (hnew o ho)
    refine ⟨_, rfl, summary_buffer mirrors, ?_, both.copiesExecuted⟩
    exact reflects.insert both (hobjects ▸ List.Subset.refl _)
      (mirrors.kept released.toSameSetting released.toKeeps apart) fun o ho => .inr (hnew o ho)

theorem follows_fill (reflects : Reflects profile types w store) (contents : Contents) (discard : Bool)
    (allowed : store.Allows profile types (.fill name contents discard)) :
    (perform (.fill name contents discard)).Ends w
      (Follows profile types w store (.fill name contents discard)) := by
  refine ends_held_reflected reflects name (fun hcell => ?_) fun b cell hb hcell mirrors => ?_
  · exact follows_idle reflects (by simp [Store.perform, hcell, BufferReply.summary])
      (by simp [Store.copies, Table.contains, hcell])
  dsimp only
  rw [ends_bind, ends_fill]
  refine (StagedBuffer.ends_fill_ok reflects.ready mirrors contents discard ?_).mono fun r s' h => ?_
  · intro hstaged
    rw [reflects.types, reflects.profile]
    exact allowed cell hcell hstaged
  obtain ⟨b', rfl, step, mirrors', within⟩ := h
  have hobjects : w.objects name = b.objects := by rw [objects, hb]
  exact follows_of (by simp [Store.perform, hcell, BufferReply.summary])
    (by simp [Store.copies, Table.contains, hcell])
    (reflects.insert step (hobjects ▸ List.Subset.refl _) mirrors' (hobjects ▸ within)) step.copiesExecuted

theorem follows_copy (reflects : Reflects profile types w store) (source : String) (region : Region)
    (wait : Bool) (allowed : store.Allows profile types (.copy name source region wait)) :
    (perform (.copy name source region wait)).Ends w
      (Follows profile types w store (.copy name source region wait)) := by
  refine ends_held_reflected reflects name (fun hcell => ?_) fun b cell hb hcell mirrors => ?_
  · exact follows_idle reflects (by simp [Store.perform, hcell, BufferReply.summary])
      (by simp [Store.copies, Table.contains, hcell])
  refine ends_held_reflected reflects source (fun hcell' => ?_) fun b' cell' _ hcell' mirrors' => ?_
  · exact follows_idle reflects (by simp [Store.perform, hcell, hcell', BufferReply.summary])
      (by simp [Store.copies, Table.contains, hcell'])
  dsimp only
  obtain ⟨sourceFits, fits⟩ := allowed cell cell' hcell hcell'
  rw [ends_bind, ends_onSession]
  refine (StagedBuffer.ends_copyFrom_stored reflects.ready mirrors'.main mirrors.main sourceFits fits
    wait).mono fun r s' h => ?_
  obtain ⟨rfl, step, stored⟩ := h
  have copied : StagedBuffer.Mirrors s'.machine b (cell.copy cell' region) :=
    mirrors.rewritten step.toSameSetting step.toKeeps stored
  exact follows_of (by simp [Store.perform, hcell, hcell', BufferReply.summary])
    (by simp [Store.copies, Table.contains, hcell, hcell'])
    (reflects.update step hb (StagedBuffer.mem_objects_memory b) copied) step.copiesExecuted

/-- A range that lies in a held buffer is mapped, used and unmapped again. -/
theorem ends_withRange_ok {α : Type} {w : Workspace} (reliable : w.session.machine.Reliable)
    (mirrors : StagedBuffer.Mirrors w.session.machine b cell) {offset size : UInt64}
    (fits : offset.toNat + cell.reach offset size ≤ cell.bytes.length)
    (use : MappedRange → Action Machine α) (Q : Except Failure α → Workspace → Prop) :
    (withRange b offset size use).Ends w Q ↔
      (use ⟨b.main.memory, offset, b.main.mappedSize offset size⟩).Ends
        (w.session.machine.mapped b.main.memory offset (b.main.mappedSize offset size)) fun r m =>
          Q r { w with session := { w.session with machine := m.unmapped b.main.memory } } := by
  rw [withRange, ends_onSession, Session.ends_onMachine, ends_bind, BoundBuffer.ends_map_ok reliable
    mirrors.main (by rwa [BoundBuffer.toNat_mappedSize, BoundBuffer.reach_of_length mirrors.main.length])]
  dsimp only
  rw [ends_ensuring]
  exact ends_congr fun r m => Iff.rfl

theorem follows_read (reflects : Reflects profile types w store) (offset size : UInt64)
    (allowed : store.Allows profile types (.read name offset size)) :
    (perform (.read name offset size)).Ends w
      (Follows profile types w store (.read name offset size)) := by
  refine ends_held_reflected reflects name (fun hcell => ?_) fun b cell hb hcell mirrors => ?_
  · exact follows_idle reflects (by simp [Store.perform, hcell, BufferReply.summary]) rfl
  dsimp only
  rw [ends_bind, ends_withRange_ok reflects.ready.reliable mirrors (allowed cell hcell), MappedRange.read,
    ends_bind, Machine.ends_contents]
  dsimp only
  obtain ⟨array, hget, hbytes⟩ := mirrors.main.memory
  have hlocal := (BoundBuffer.local_mapped w.session.machine b.main.memory offset
    (b.main.mappedSize offset size)).trans (BoundBuffer.local_unmapped _ b.main.memory)
  have step := Session.Step.of_local reflects.ready hlocal
  refine follows_of ?_ rfl (reflects.of_step step) step.copiesExecuted
  have hmapped : (w.session.machine.mapped b.main.memory offset
      (b.main.mappedSize offset size)).memories.get? b.main.memory = some array := hget
  have hbytes : (Bytes.slice array offset.toNat (b.main.mappedSize offset size).toNat).data.toList =
      cell.range offset.toNat (cell.reach offset size) := by
    rw [BoundBuffer.toNat_mappedSize, BoundBuffer.reach_of_length mirrors.main.length, Cell.range, ← hbytes]
    simp [Bytes.slice]
  rw [hmapped, Option.getD_some]
  simp [Store.perform, hcell, BufferReply.summary, hbytes]

theorem follows_write (reflects : Reflects profile types w store) (offset size : UInt64)
    (filling : Filling) (allowed : store.Allows profile types (.write name offset size filling)) :
    (perform (.write name offset size filling)).Ends w
      (Follows profile types w store (.write name offset size filling)) := by
  refine ends_held_reflected reflects name (fun hcell => ?_) fun b cell hb hcell mirrors => ?_
  · exact follows_idle reflects (by simp [Store.perform, hcell, BufferReply.summary]) rfl
  dsimp only
  have fits := allowed cell hcell
  have hreach : (b.main.mappedSize offset size).toNat = cell.reach offset size :=
    (BoundBuffer.toNat_mappedSize ..).trans (BoundBuffer.reach_of_length mirrors.main.length offset size)
  have hsize : (filling.bytes (b.main.mappedSize offset size).toNat).size =
      (b.main.mappedSize offset size).toNat := by
    rw [ByteArray.size, ← Array.length_toList, Filling.toList_bytes, Filling.length_octets]
  rw [ends_withRange_ok reflects.ready.reliable mirrors fits, ends_bind, BoundBuffer.ends_write hsize]
  have step := Session.Step.of_local reflects.ready (BoundBuffer.local_written w.session.machine b.main offset
    (b.main.mappedSize offset size) (filling.bytes (b.main.mappedSize offset size).toNat))
  have hfits : offset.toNat + (filling.bytes (b.main.mappedSize offset size).toNat).size ≤
      cell.bytes.length := by rwa [hsize, hreach]
  have hbytes : (filling.bytes (b.main.mappedSize offset size).toNat).data.toList =
      filling.octets (cell.reach offset size) := by rw [Filling.toList_bytes, hreach]
  have stored := BoundBuffer.stored_written mirrors.main (b.main.mappedSize offset size) hfits
  rw [hbytes] at stored
  have written : StagedBuffer.Mirrors _ b (cell.write offset size filling) :=
    mirrors.rewritten step.toSameSetting step.toKeeps stored
  refine follows_of ?_ rfl (reflects.update step hb (StagedBuffer.mem_objects_memory b) written)
    step.copiesExecuted
  simp [Store.perform, hcell, BufferReply.summary, hreach]

theorem follows_inspect (reflects : Reflects profile types w store) (name : String) :
    (perform (.inspect name)).Ends w (Follows profile types w store (.inspect name)) := by
  refine ends_held_reflected reflects name (fun hcell => ?_) fun b cell hb hcell mirrors => ?_
  · exact follows_idle reflects (by simp [Store.perform, hcell, BufferReply.summary]) rfl
  · exact follows_idle reflects (by simp [Store.perform, hcell, summary_buffer mirrors]) rfl

theorem follows_release (reflects : Reflects profile types w store) (name : String) :
    (perform (.release name)).Ends w (Follows profile types w store (.release name)) := by
  refine ends_held_reflected reflects name (fun hcell => ?_) fun b cell hb hcell mirrors => ?_
  · exact follows_idle reflects (by simp [Store.perform, hcell, BufferReply.summary]) rfl
  dsimp only
  rw [ends_bind, ends_modify]
  dsimp only
  rw [ends_bind]
  refine (ends_releaseBuffer_ok b { w with buffers := w.buffers.erase name } reflects.ready).mono
    fun r w' h => ?_
  obtain ⟨s', rfl, rfl, step⟩ := h
  have hobjects : w.objects name = b.objects := by rw [objects, hb]
  exact follows_of (by simp [Store.perform, hcell, BufferReply.summary]) rfl
    (reflects.erase step (hobjects ▸ List.Subset.refl _)) step.copiesExecuted

theorem follows_attachName (reflects : Reflects profile types w store) (handle : Handle) (text : String) :
    (perform (.attachName handle text)).Ends w
      (Follows profile types w store (.attachName handle text)) := by
  rw [perform, ends_bind, ends_onSession, ends_bind, Session.ends_getPool]
  dsimp only
  rw [ends_orOperational, Session.ends_lift]
  refine (BoundBuffer.ends_nameObject_ok reflects.ready.reliable _ _ handle text).mono fun r m h => ?_
  obtain ⟨rfl, hlocal⟩ := h
  have step := Session.Step.of_local reflects.ready hlocal
  exact follows_of rfl rfl (reflects.of_step step) step.copiesExecuted

/-- Every request that the store allows is answered as the store answers it. -/
theorem ends_perform (reflects : Reflects profile types w store) (request : BufferRequest)
    (allowed : store.Allows profile types request) :
    (perform request).Ends w (Follows profile types w store request) := by
  cases request with
  | create name spec => exact follows_create reflects spec allowed
  | fill name contents discard => exact follows_fill reflects contents discard allowed
  | copy name source region wait => exact follows_copy reflects source region wait allowed
  | read name offset size => exact follows_read reflects offset size allowed
  | write name offset size filling => exact follows_write reflects offset size filling allowed
  | inspect name => exact follows_inspect reflects name
  | release name => exact follows_release reflects name
  | attachName handle text => exact follows_attachName reflects handle text
  | onPool operation => exact allowed.elim

end Requests

/-! ## What a caller sees -/

section Sight

variable {profile : MemoryProfile} {types : List UInt32} {w : Workspace} {store : Store}

theorem Reflects.octets_eq (h : Reflects profile types w store) (name : String) :
    w.octets name = (store.get? name).map (·.bytes) := by
  unfold octets
  obtain ⟨hb, hcell⟩ | ⟨b, cell, hb, hcell, mirrors⟩ := h.cases name
  · rw [hb, hcell]
    rfl
  · obtain ⟨array, hget, hbytes⟩ := mirrors.main.memory
    simp [hb, hcell, mirrors.main.binding, hget, hbytes]

theorem Reflects.waiting_eq (h : Reflects profile types w store) : w.waiting = [] :=
  List.flatMap_eq_nil_iff.2 h.ready.blank

end Sight

/-! ## New workspaces -/

/-- A workspace with a pool that was just made, and no buffers. -/
def opened (m : Machine) (device : Device) (queue : Handle) (depth : Nat) (family : UInt32)
    (level : Int) : Workspace where
  session := ⟨CommandPool.created m device depth family level,
    CommandPool.fresh device queue depth family (m.lastHandle + 1)⟩

theorem reflects_opened {m : Machine} (reliable : m.Reliable)
    (unused : ∀ b, m.lastHandle < b → m.work b = []) {device : Device} (present : device.isNull = false)
    (queue : Handle) {depth : Nat} (hdepth : 0 < depth) (family : UInt32) (level : Int) :
    CommandPool.create device queue depth family level m = .ok
        (opened m device queue depth family level).session.pool
        (opened m device queue depth family level).session.machine ∧
      Reflects m.profile device.memoryTypes (opened m device queue depth family level) {} := by
  have hframe := Machine.announced_frame m device
  have setting : Machine.SameSetting m (m.pooled device family) := by
    rw [Machine.pooled, hframe]
    exact ⟨rfl, rfl, rfl, rfl⟩
  have setting' : Machine.SameSetting m (CommandPool.created m device depth family level) :=
    setting.trans ⟨rfl, rfl, rfl, rfl⟩
  have created := CommandPool.create_ok present queue hdepth family level (reliable.fault _)
    ((reliable.of_same setting).fault _)
  refine ⟨created, ⟨reliable.of_same setting', ?_, fun slot hmem => ?_, fun slot hmem => ?_, rfl⟩,
    setting'.profile, rfl, fun _ => .none, fun _ _ _ => by simp [objects, opened]⟩
  · simpa [opened, CommandPool.fresh] using hdepth
  · exact .inl ((CommandPool.slots_of_create created).1 slot hmem)
  · obtain ⟨hnew, hwork⟩ := CommandPool.work_of_create created hmem
    exact hwork.trans (unused _ hnew)

end Workspace

end CopyBench
