import CopyBench.Proofs.Buffer.Balance
import CopyBench.Proofs.Machine.Keeping
/-!
# What a fill uploads

The staging buffer that a name keeps holds the contents of the fill that built it, whatever was asked
for since and whatever failed: no copy and no mapped range reaches it. So a fill that succeeds uploads
those contents, which are its own only when no staging buffer was kept.
-/

namespace CopyBench

open CopyBench.Action

open Machine (Annotated Leaves Secure CopySteps)

variable {m m' : Machine} {touched : List Handle}

theorem Machine.Annotated.leaves (h : Annotated m m') : m.Leaves m' touched := by
  rw [h.frame]
  exact Machine.leaves_plain (Nat.le_refl _) rfl rfl rfl

theorem Machine.leaves_without (m : Machine) (parts : List BoundBuffer) : m.Leaves (m.without parts) touched := by
  induction parts generalizing m with
  | nil => exact .refl m _
  | cons b parts ih => exact ((m.leaves_destroyed b.handle).trans (Machine.leaves_freed _ _)).trans (ih _)

/-- A copy touches the memory that it writes, however it ends. -/
theorem Machine.CopySteps.leaves {copy : RecordedCopy} {memory : Handle} (steps : m.CopySteps copy m')
    (used : copy.destination ≤ m.lastHandle) (hmemory : m.bindings.get? copy.destination = some memory) :
    m.Leaves m' [memory] := by
  obtain steps | ⟨m₁, b, before, -, after⟩ := steps
  · exact steps.leaves
  · have same := before.sameStock
    have queued := Machine.leaves_queued m₁ b (Nat.le_trans used same.lastHandle) (same.bindings ▸ hmemory)
    exact (before.leaves.trans queued).trans after.leaves

/-- A copy that was executed brings what a secure memory starts with to where its destination starts. -/
theorem Machine.CopiedAfter.brings {source destination sourceMemory targetMemory : Handle} {size : UInt64}
    {octets : List UInt8} (copied : m.CopiedAfter ⟨source, destination, ⟨0, 0, size⟩⟩ m')
    (hs : m.bindings.get? source = some sourceMemory) (ht : m.bindings.get? destination = some targetMemory)
    (used : sourceMemory ≤ m.lastHandle) (secure : m.Secure sourceMemory octets)
    (length : octets.length = size.toNat) :
    ∃ bytes, m'.memories.get? targetMemory = some bytes ∧ bytes.data.toList.take size.toNat = octets := by
  obtain ⟨m₁, m₂, steps, copied, same⟩ := copied
  have bindings := steps.sameStock.bindings
  have leaves : m.Leaves m₁ [] := steps.leaves
  have secure := leaves.secure _ used List.not_mem_nil _ secure
  obtain ⟨sourceMemory', targetMemory', bytes, target, hs', ht', hbytes, htarget, fits, fits'⟩ :=
    canCopy_of_copied copied
  rw [copied_eq hs' ht' hbytes htarget fits fits'] at copied
  cases copied
  rw [bindings] at hs' ht'
  cases hs.symm.trans hs'
  cases ht.symm.trans ht'
  refine ⟨_, (congrArg (·.get? targetMemory) same.memories).trans (Table.get?_insert_self ..), ?_⟩
  -- The copy was executed, so the source has room for it and starts with the octets.
  have large : size.toNat ≤ bytes.size := by simpa [Bytes.fits] using fits
  have starts := secure.starts bytes hbytes (length ▸ large)
  have slice : (Bytes.slice bytes 0 size.toNat).data.toList = octets := by
    rw [← starts, length]
    simp [Bytes.slice]
  have list : (moved ⟨0, 0, size⟩ bytes target).data.toList = _ := Bytes.toList_transfer fits
  rw [list]
  simp only [UInt64.toNat_zero, List.take_zero, List.nil_append, slice]
  exact List.take_left' length

namespace BoundBuffer

/-- Making a buffer touches no memory that exists. -/
theorem Making.leaves {spec : BufferSpec} {r : Except Failure BoundBuffer} (making : Making m spec r m') :
    m.Leaves m' touched := by
  have buffered : m.Leaves (m.buffered spec.size spec.usage spec.sharing) touched := m.leaves_buffered ..
  cases making with
  | refused noted => exact noted.leaves
  | homeless noted => exact (buffered.trans noted.leaves).trans (Machine.leaves_destroyed ..)
  | @unbound _ _ size memoryType noted =>
    have allocated := buffered.trans (Machine.leaves_allocated _ size memoryType)
    exact ((allocated.trans noted.leaves).trans (Machine.leaves_destroyed ..)).trans (Machine.leaves_freed ..)
  | @made _ size memoryType noted =>
    have bound : m.Leaves (BoundBuffer.made m spec size memoryType) [m.lastHandle + 2] :=
      ((m.leaves_buffered ..).trans (Machine.leaves_allocated ..)).trans (Machine.leaves_bound ..)
    refine Leaves.trans (bound.narrow fun o ho => .inr ?_) noted.leaves
    rw [List.mem_singleton.1 ho]
    exact Nat.lt_add_of_pos_right (Nat.succ_pos 1)

theorem Making.stored {spec : BufferSpec} {b : BoundBuffer} (making : Making m spec (.ok b) m') :
    m'.Stored b (List.replicate b.actualSize.toNat Machine.freshByte) ∧ m'.recorded = m.recorded ∧
      m'.bindings = m.bindings.insert b.handle b.memory ∧ b.handle = m.lastHandle + 1 ∧
        b.memory = m.lastHandle + 2 := by
  cases making with
  | @made _ size memoryType noted =>
    have stored := stored_made m spec size memoryType
    rw [noted.frame]
    exact ⟨⟨stored.binding, stored.memory, stored.length, stored.handle_le, stored.memory_le⟩, rfl, rfl, rfl, rfl⟩

theorem leaves_written (m : Machine) (b : BoundBuffer) (offset size : UInt64) (patch : ByteArray) :
    m.Leaves (written m b offset size patch) [b.memory] :=
  ((m.leaves_mapped b.memory offset size).trans (Machine.leaves_overwritten ..)).trans (Machine.leaves_unmapped ..)

theorem written_frame (m : Machine) (b : BoundBuffer) (offset size : UInt64) (patch : ByteArray) :
    (written m b offset size patch).recorded = m.recorded ∧ (written m b offset size patch).bindings = m.bindings := by
  unfold written Machine.overwritten
  split <;> exact ⟨rfl, rfl⟩

end BoundBuffer

namespace StagedBuffer

variable {b b' : StagedBuffer} {contents : Contents} {discard : Bool} {spec : BufferSpec} {size : UInt64}
  {staging : BoundBuffer}

theorem Building.leaves {r : Except Failure BoundBuffer} (building : Building m spec size contents r m') :
    m.Leaves m' touched := by
  cases building with
  | unmade making => exact making.leaves
  | unwritten making noted =>
    exact ((making.leaves.trans noted.leaves).trans (Machine.leaves_destroyed ..)).trans (Machine.leaves_freed ..)
  | @built staging _ making fits =>
    have new : m.lastHandle < staging.memory := by
      rw [making.stored.2.2.2.2]
      exact Nat.lt_add_of_pos_right (Nat.succ_pos 1)
    refine Leaves.narrow (making.leaves.trans (BoundBuffer.leaves_written ..)) fun o ho => .inr ?_
    rw [List.mem_singleton.1 ho]
    exact new

/-- A staging buffer that was built holds its contents, and nothing that waits writes there. -/
theorem Building.secure {owners : List BoundBuffer} {ranges : Nat} (owned : m.Owned owners ranges)
    (known : m.Known) (building : Building m spec size contents (.ok staging) m') :
    m.lastHandle < staging.memory ∧ m'.Secure staging.memory (contents.octets size.toNat) := by
  cases building with
  | @built _ m₁ making fits =>
    obtain ⟨stored, recorded, bindings, hhandle, hmemory⟩ := making.stored
    have new : m.lastHandle < staging.memory := by
      rw [hmemory]
      exact Nat.lt_add_of_pos_right (Nat.succ_pos 1)
    have room : (0 : UInt64).toNat + (contents.pattern (staging.mappedSize 0 size).toNat).size ≤
        (List.replicate staging.actualSize.toNat Machine.freshByte).length := by
      rw [Contents.size_pattern, List.length_replicate]
      simpa using fits
    obtain ⟨array, hget, hlist⟩ := (BoundBuffer.stored_written stored (staging.mappedSize 0 size) room).memory
    refine ⟨new, fun bytes hbytes hle => ?_, fun b copy hcopy hbound => ?_⟩
    · cases hget.symm.trans hbytes
      -- A memory that is large enough was mapped as far as it was asked for.
      have large : size ≤ staging.actualSize := by
        rw [UInt64.le_iff_toNat_le, ← contents.length_octets size.toNat]
        have length := congrArg List.length hlist
        rw [length_patched (by simpa using room), List.length_replicate, Array.length_toList] at length
        exact length ▸ hle
      rw [hlist, BoundBuffer.mappedSize_of_le large, Contents.toList_pattern, patched]
      exact List.take_left' rfl
    · obtain ⟨recorded', bindings'⟩ := BoundBuffer.written_frame m₁ staging 0 (staging.mappedSize 0 size)
        (contents.pattern (staging.mappedSize 0 size).toNat)
      rw [Machine.work, recorded', recorded] at hcopy
      have used : copy.destination ≤ m.lastHandle := known b copy hcopy
      rw [bindings', bindings, Table.get?_insert_of_ne] at hbound
      · obtain ⟨owner, mem, -, howner⟩ := owned.owner hbound
        exact Nat.not_lt.2 (owned.le mem).2 (howner ▸ new)
      · rw [hhandle]
        exact Nat.ne_of_lt (Nat.lt_succ_of_le used)

/-- What a buffer keeps: the staging buffer of one that has `contents` holds them, and is not mapped; one
that has none is bare. -/
def Keeps (m : Machine) (ranges : List MappedRange) (b : StagedBuffer) (contents : Option Contents) : Prop :=
  match b.staging with
  | none => contents = none
  | some staging => ∃ c, contents = some c ∧ m.Secure staging.memory (c.octets b.requestedSize.toNat) ∧
      ∀ range ∈ ranges, range.memory ≠ staging.memory

variable {ranges : List MappedRange} {kept : Option Contents} {memory : Handle} {owners : List BoundBuffer}
  {n : Nat}

theorem Keeps.of_bare (bare : b.staging = none) : Keeps m ranges b none := by
  rw [Keeps, bare]

/-- A staging buffer that is not touched keeps its contents. -/
theorem Keeps.left (h : Keeps m ranges b kept) (leaves : m.Leaves m' touched)
    (spared : ∀ staging, b.staging = some staging → staging.memory ≤ m.lastHandle ∧ staging.memory ∉ touched) :
    Keeps m' ranges b kept := by
  unfold Keeps at h ⊢
  cases hstaging : b.staging with
  | none =>
    rw [hstaging] at h
    exact h
  | some staging =>
    rw [hstaging] at h
    obtain ⟨c, hc, secure, unmapped⟩ := h
    obtain ⟨hle, hmem⟩ := spared staging hstaging
    exact ⟨c, hc, leaves.secure _ hle hmem _ secure, unmapped⟩

/-- A staging buffer that is to be uploaded holds the contents that were kept, else those of the fill. -/
theorem Prepared.keeps (h : Keeps m ranges b kept) (owned : m.Owned owners n) (known : m.Known)
    (used : ∀ range ∈ ranges, range.memory ≤ m.lastHandle) (prepared : Prepared m b contents b' staging m') :
    Keeps m' ranges b' (some (kept.getD contents)) := by
  unfold Keeps at h ⊢
  cases prepared with
  | kept staged =>
    rw [staged] at h ⊢
    obtain ⟨c, rfl, secure, unmapped⟩ := h
    exact ⟨c, rfl, secure, unmapped⟩
  | built bare building =>
    rw [bare] at h
    obtain ⟨new, secure⟩ := building.secure owned known
    rw [h]
    exact ⟨contents, rfl, secure, fun range hmem => Nat.ne_of_lt (Nat.lt_of_le_of_lt (used range hmem) new)⟩

section Fills

variable {rest : List BoundBuffer} {result : Except Failure Unit}

theorem Filled.main (filled : Filled m b contents discard b' result m') : b'.main = b.main := by
  cases filled with
  | unprepared => rfl
  | interrupted prepared | uploaded prepared | discarded prepared => exact prepared.main

/-- A fill touches the memory of its buffer and no other that exists. -/
theorem Filled.leaves (owned : m.Owned (b.parts ++ rest) n)
    (filled : Filled m b contents discard b' result m') : m.Leaves m' [b.main.memory] := by
  have copying {m₁ m₂ : Machine} {b' : StagedBuffer} {staging : BoundBuffer}
      (prepared : Prepared m b contents b' staging m₁) (steps : m₁.CopySteps (b.uploading staging) m₂) :
      m.Leaves m₂ [b.main.memory] := by
    have owned := owned_prepared owned prepared
    have main : b.main ∈ [staging, b.main] ++ rest := List.mem_cons_of_mem _ List.mem_cons_self
    have ready : m.Leaves m₁ [b.main.memory] := by
      cases prepared with
      | kept => exact .refl m _
      | built bare building => exact building.leaves
    exact ready.trans (steps.leaves (owned.le main).1 (owned.binding main))
  cases filled with
  | unprepared bare building => exact building.leaves
  | interrupted prepared steps | uploaded prepared steps => exact copying prepared steps
  | discarded prepared steps =>
    exact ((copying prepared steps).trans (Machine.leaves_destroyed ..)).trans (Machine.leaves_freed ..)

/-- A staging buffer that stays after a fill holds what was kept before, else the contents of the fill. -/
theorem Filled.keeps (h : Keeps m ranges b kept) (owned : m.Owned (b.parts ++ rest) n) (known : m.Known)
    (used : ∀ range ∈ ranges, range.memory ≤ m.lastHandle)
    (filled : Filled m b contents discard b' result m') :
    Keeps m' ranges b' (b'.staging.map fun _ => kept.getD contents) := by
  have copying {m₁ m₂ : Machine} {b' : StagedBuffer} {staging : BoundBuffer}
      (prepared : Prepared m b contents b' staging m₁) (steps : m₁.CopySteps (b.uploading staging) m₂) :
      Keeps m₂ ranges b' (some (kept.getD contents)) := by
    -- The copy touches the memory of the buffer, which is not that of its staging buffer.
    have owned' := owned_prepared owned prepared
    have main : b.main ∈ b.main :: rest := List.mem_cons_self
    have mem := List.mem_cons_of_mem staging main
    refine (prepared.keeps h owned known used).left (steps.leaves (owned'.le mem).1 (owned'.binding mem)) ?_
    intro staging' hstaging'
    cases prepared.staged.symm.trans hstaging'
    refine ⟨(owned'.le List.mem_cons_self).2, fun hmem => ?_⟩
    exact (owned'.apart main).2 (List.mem_singleton.1 hmem).symm
  cases filled with
  | unprepared bare building =>
    rw [bare]
    exact .of_bare bare
  | interrupted prepared steps | uploaded prepared steps =>
    rw [prepared.staged]
    exact copying prepared steps
  | discarded => exact .of_bare rfl

/-- A fill that succeeds brings what its staging buffer holds: what was kept, else its own contents. -/
theorem Filled.brings (h : Keeps m ranges b kept) (owned : m.Owned (b.parts ++ rest) n) (known : m.Known)
    (used : ∀ range ∈ ranges, range.memory ≤ m.lastHandle)
    (filled : Filled m b contents discard b' (.ok ()) m') :
    ∃ bytes, m'.memories.get? b.main.memory = some bytes ∧
      bytes.data.toList.take b.requestedSize.toNat = (kept.getD contents).octets b.requestedSize.toNat := by
  have copying {m₁ m₂ : Machine} {b' : StagedBuffer} {staging : BoundBuffer}
      (prepared : Prepared m b contents b' staging m₁) (copied : m₁.CopiedAfter (b.uploading staging) m₂) :
      ∃ bytes, m₂.memories.get? b.main.memory = some bytes ∧
        bytes.data.toList.take b.requestedSize.toNat = (kept.getD contents).octets b.requestedSize.toNat := by
    have owned' := owned_prepared owned prepared
    have keeps := prepared.keeps h owned known used
    have size : b'.requestedSize = b.requestedSize := by rw [requestedSize, prepared.main, requestedSize]
    rw [Keeps, prepared.staged] at keeps
    obtain ⟨c, hc, secure, -⟩ := keeps
    rw [size] at secure
    rw [Option.some.inj hc]
    have main : b.main ∈ [staging, b.main] ++ rest := List.mem_cons_of_mem _ List.mem_cons_self
    exact copied.brings (owned'.binding List.mem_cons_self) (owned'.binding main)
      (owned'.le List.mem_cons_self).2 secure (Contents.length_octets ..)
  cases filled with
  | uploaded prepared steps copied => exact copying prepared copied
  | discarded prepared steps copied =>
    obtain ⟨bytes, hbytes, starts⟩ := copying prepared copied
    have main : b.main ∈ [b.main] ++ rest := List.mem_cons_self
    have apart := (owned_prepared owned prepared).apart main
    exact ⟨bytes, (Table.get?_erase_of_ne _ apart.2).trans hbytes, starts⟩

end Fills

end StagedBuffer

namespace Workspace

/-- Every buffer that is held keeps the contents that `kept` says. -/
structure Faithful (w : Workspace) (ranges : List MappedRange) (kept : String → Option Contents) : Prop where
  balanced : w.Balanced ranges.length
  known : w.session.machine.Known
  used : ∀ range ∈ ranges, range.memory ≤ w.session.machine.lastHandle
  keeps : ∀ name b, w.buffers.get? name = some b → b.Keeps w.session.machine ranges (kept name)

variable {start w w' : Workspace} {ranges : List MappedRange} {kept : String → Option Contents}
  {name name' : String} {b b' : StagedBuffer} {n : Nat} {run run' : Run}

/-- The memory of a buffer is no staging memory. -/
theorem Balanced.apart (h : w.Balanced n) (hb : w.buffers.get? name = some b)
    (hb' : w.buffers.get? name' = some b') {staging : BoundBuffer} (staged : b'.staging = some staging) :
    staging.memory ≤ w.session.machine.lastHandle ∧ staging.memory ∉ [b.main.memory] := by
  have owned := h.split hb'
  rw [StagedBuffer.parts_of_staged staged] at owned
  have mem : b.main ∈ [b'.main] ++ owners (w.buffers.erase name') := by
    by_cases heq : name = name'
    · subst heq
      cases hb.symm.trans hb'
      exact List.mem_cons_self
    · exact List.mem_cons_of_mem _ (main_mem_owners ((Table.get?_erase_of_ne _ heq).trans hb))
  refine ⟨(owned.le List.mem_cons_self).2, fun hmem => ?_⟩
  exact (owned.apart mem).2 (List.mem_singleton.1 hmem).symm

/-- What a request that is no fill of the name leaves under it is kept as before. -/
theorem keptAfter_eq {request : BufferRequest} (hb : w'.buffers.get? name = some b)
    (keeps : b.Keeps m ranges (kept name)) (other : ∀ contents discard, request ≠ .fill name contents discard) :
    keptAfter kept request w' name = kept name := by
  unfold StagedBuffer.Keeps at keeps
  unfold keptAfter
  rw [hb, Option.bind_some]
  cases hstaging : b.staging with
  | none =>
    rw [hstaging] at keeps
    exact keeps.symm
  | some staging =>
    cases request with
    | fill filled contents discard =>
      refine if_neg ?_
      rintro rfl
      exact other contents discard rfl
    | _ => rfl

theorem keptAfter_bare {request : BufferRequest} (hb : w'.buffers.get? name = some b) (bare : b.staging = none) :
    keptAfter kept request w' name = none := by
  simp [keptAfter, hb, bare]

/-- A fill that keeps a staging buffer keeps what was kept, else its own contents. -/
theorem keptAfter_filled (kept : String → Option Contents) (contents : Contents) (discard : Bool)
    (hb : w'.buffers.get? name = some b) :
    keptAfter kept (.fill name contents discard) w' name =
      b.staging.map fun _ => (kept name).getD contents := by
  unfold keptAfter
  rw [hb, Option.bind_some]
  cases b.staging with
  | none => rfl
  | some staging => exact if_pos rfl

/-- A request that holds no new staging buffer, and touches no memory but that of a buffer that is held,
leaves what is kept as it was. -/
theorem Faithful.left {request : BufferRequest} (h : Faithful w ranges kept) (balanced : w'.Balanced ranges.length)
    (leaves : w.session.machine.Leaves w'.session.machine touched)
    (spared : ∀ memory ∈ touched, ∃ name b, w.buffers.get? name = some b ∧ memory = b.main.memory)
    (other : ∀ name b contents discard, w'.buffers.get? name = some b → request ≠ .fill name contents discard)
    (holds : ∀ name b, w'.buffers.get? name = some b → b.staging = none ∨ w.buffers.get? name = some b) :
    Faithful w' ranges (keptAfter kept request w') := by
  refine ⟨balanced, leaves.known h.known,
    fun range hmem => Nat.le_trans (h.used range hmem) leaves.lastHandle, fun name b hb => ?_⟩
  rcases holds name b hb with bare | hb'
  · rw [keptAfter_bare hb bare]
    exact .of_bare bare
  · have keeps := h.keeps name b hb'
    rw [keptAfter_eq hb keeps fun contents discard => other name b contents discard hb]
    refine keeps.left leaves fun staging staged => ⟨(h.balanced.apart hb' hb' staged).1, fun hmem => ?_⟩
    obtain ⟨name', b', held, heq⟩ := spared _ hmem
    exact (h.balanced.apart held hb' staged).2 (List.mem_singleton.2 heq)

theorem Faithful.filled {contents : Contents} {discard : Bool} {result : Except Failure Unit} {s : Session}
    (h : Faithful w ranges kept) (hb : w.buffers.get? name = some b)
    (filled : StagedBuffer.Filled w.session.machine b contents discard b' result s.machine)
    (balanced : Balanced ⟨s, w.buffers.insert name b'⟩ ranges.length) :
    Faithful ⟨s, w.buffers.insert name b'⟩ ranges
      (keptAfter kept (.fill name contents discard) ⟨s, w.buffers.insert name b'⟩) := by
  have owned := h.balanced.split hb
  have leaves := filled.leaves owned
  refine ⟨balanced, leaves.known h.known,
    fun range hmem => Nat.le_trans (h.used range hmem) leaves.lastHandle, fun name' b'' hb'' => ?_⟩
  by_cases heq : name' = name
  · subst heq
    cases (Table.get?_insert_self ..).symm.trans hb''
    rw [keptAfter_filled kept contents discard hb'']
    exact filled.keeps (h.keeps _ b hb) owned h.known h.used
  · have held : w.buffers.get? name' = some b'' := (Table.get?_insert_of_ne _ _ heq).symm.trans hb''
    have keeps := h.keeps name' b'' held
    rw [keptAfter_eq hb'' keeps fun contents' discard' hfill => heq (by cases hfill; rfl)]
    exact keeps.left leaves fun staging staged => h.balanced.apart hb held staged

/-- Every request leaves what is held as the contents that are kept say. -/
theorem Faithful.performed {request : BufferRequest} {r : Except Failure BufferReply} (h : Faithful w ranges kept)
    (performed : Performed w request r w') : Faithful w' ranges (keptAfter kept request w') := by
  have balanced := h.balanced.performed performed
  have nothing : ∀ memory ∈ ([] : List Handle), ∃ name b, w.buffers.get? name = some b ∧ memory = b.main.memory :=
    nofun
  have same : ∀ name b, w.buffers.get? name = some b → b.staging = none ∨ w.buffers.get? name = some b :=
    fun _ _ => .inr
  -- What is held after a buffer was made under a name.
  have making {name : String} {main : BoundBuffer} (name' : String) (b : StagedBuffer)
      (hb : (w.buffers.insert name { main }).get? name' = some b) :
      b.staging = none ∨ w.buffers.get? name' = some b := by
    by_cases heq : name' = name
    · subst heq
      cases (Table.get?_insert_self ..).symm.trans hb
      exact .inl rfl
    · exact .inr ((Table.get?_insert_of_ne _ _ heq).symm.trans hb)
  cases performed with
  | absent named absent =>
    refine h.left balanced (.refl _ _) nothing ?_ same
    rintro name b contents discard held rfl
    cases List.mem_singleton.1 named
    cases absent.symm.trans held
  | inspected => exact h.left balanced (.refl _ _) nothing (fun _ _ _ _ _ => nofun) same
  | noted annotates annotated =>
    refine h.left balanced annotated.leaves nothing ?_ same
    rintro _ _ _ _ - rfl
    exact annotates
  | unmade m => exact h.left balanced m.leaves nothing (fun _ _ _ _ _ => nofun) same
  | made absent m => exact h.left balanced m.leaves nothing (fun _ _ _ _ _ => nofun) making
  | replaced held m =>
    exact h.left balanced (m.leaves.trans (Machine.leaves_without ..)) nothing (fun _ _ _ _ _ => nofun) making
  | filled held filled => exact h.filled held filled balanced
  | copied held sourceHeld steps =>
    have main := main_mem_owners held
    have leaves := steps.leaves (Machine.Owned.le h.balanced main).1 (Machine.Owned.binding h.balanced main)
    exact h.left balanced leaves (fun _ hmem => ⟨_, _, held, List.mem_singleton.1 hmem⟩)
      (fun _ _ _ _ _ => nofun) same
  | read held =>
    exact h.left balanced ((Machine.leaves_mapped ..).trans (Machine.leaves_unmapped ..)) nothing
      (fun _ _ _ _ _ => nofun) same
  | written held patch =>
    refine h.left balanced (((Machine.leaves_mapped ..).trans (Machine.leaves_overwritten ..)).trans
      (Machine.leaves_unmapped ..)) (fun _ hmem => ⟨_, _, held, List.mem_singleton.1 hmem⟩)
      (fun _ _ _ _ _ => nofun) same
  | @released name b held =>
    exact h.left balanced (Machine.leaves_without ..) nothing (fun _ _ _ _ _ => nofun) fun _ _ left =>
      .inr (Table.get?_of_get?_erase left)
  | pooled steps => exact h.left balanced (Machine.Steps.leaves steps) nothing (fun _ _ _ _ _ => nofun) same

theorem New.faithful (new : start.New) : Faithful start [] fun _ => none := by
  refine ⟨new.balanced, ?_, nofun, fun name b hb => ?_⟩
  · obtain ⟨-, profile, schedule, lostSubmits, lostWaits, device, queue, depth, family, level, created⟩ := new
    obtain ⟨-, -, -, hmachine⟩ := CommandPool.create_eq created
    have recorded : start.session.machine.recorded = {} := by
      rw [hmachine, CommandPool.created]
      change (Machine.announced _ device).recorded = {}
      rw [Machine.announced_frame]
    intro b copy hcopy
    rw [Machine.work, recorded] at hcopy
    cases hcopy
  · rw [new.bare] at hb
    cases hb

/-- A range is closed, or one more is opened, or written: the buffers stay, and so does what they keep. -/
theorem Faithful.ranged {s : Session} {ranges' : List MappedRange} (h : Faithful w ranges kept)
    (balanced : Balanced ⟨s, w.buffers⟩ ranges'.length) (leaves : w.session.machine.Leaves s.machine touched)
    (spared : ∀ name b staging, w.buffers.get? name = some b → b.staging = some staging →
      staging.memory ∉ touched)
    (mapped : ∀ range ∈ ranges', range ∈ ranges ∨ ∃ name b, w.buffers.get? name = some b ∧
      range.memory = b.main.memory) : Faithful ⟨s, w.buffers⟩ ranges' kept := by
  refine ⟨balanced, leaves.known h.known, fun range hmem => Nat.le_trans ?_ leaves.lastHandle,
    fun name b hb => ?_⟩
  · rcases mapped range hmem with old | ⟨name, b, hb, heq⟩
    · exact h.used range old
    · rw [heq]
      exact (Machine.Owned.le h.balanced (main_mem_owners hb)).2
  · have keeps := (h.keeps name b hb).left leaves fun staging staged =>
      ⟨(h.balanced.apart hb hb staged).1, spared name b staging hb staged⟩
    unfold StagedBuffer.Keeps at keeps ⊢
    cases hstaging : b.staging with
    | none =>
      rw [hstaging] at keeps
      exact keeps
    | some staging =>
      rw [hstaging] at keeps
      obtain ⟨c, hc, secure, unmapped⟩ := keeps
      refine ⟨c, hc, secure, fun range hmem => ?_⟩
      rcases mapped range hmem with old | ⟨name', b', hb', heq⟩
      · exact unmapped range old
      · rw [heq]
        exact fun same => (h.balanced.apart hb' hb hstaging).2 (List.mem_singleton.2 same.symm)

/-- What is held in the course of a run is faithful. -/
def Run.Faithful (run : Run) : Prop := Workspace.Faithful run.workspace run.ranges run.kept

theorem Run.Ranging.faithful (ranging : Run.Ranging run run') (h : run.Faithful) : run'.Faithful := by
  have balanced := ranging.balanced h.balanced
  cases ranging with
  | opened maps =>
    cases (ends_of_ok maps).1 (ends_openRange h.balanced.live _ _ _) with
    | opened held =>
      refine h.ranged balanced (Machine.leaves_mapped ..) (fun _ _ _ _ _ => List.not_mem_nil) ?_
      exact List.forall_mem_cons.2 ⟨.inr ⟨_, _, held, rfl⟩, fun _ => .inl⟩
  | unopened fails =>
    cases (ends_of_error fails).1 (ends_openRange h.balanced.live _ _ _) with
    | noted annotated =>
      exact h.ranged balanced annotated.leaves (fun _ _ _ _ _ => List.not_mem_nil) fun _ => .inl
  | @written range mem bytes =>
    rw [finalState_writeOpen] at balanced ⊢
    refine h.ranged balanced (Machine.leaves_overwritten ..) (fun name b staging held staged hmem => ?_)
      fun _ => .inl
    have keeps := h.keeps name b held
    rw [StagedBuffer.Keeps, staged] at keeps
    obtain ⟨c, -, -, unmapped⟩ := keeps
    exact unmapped range mem (List.mem_singleton.1 hmem).symm
  | closed mem =>
    rw [finalState_closeRange] at balanced ⊢
    exact h.ranged balanced (Machine.leaves_unmapped ..) (fun _ _ _ _ _ => List.not_mem_nil)
      fun range hmem => .inl (List.mem_of_mem_erase hmem)

theorem Run.Step.faithful (step : Run.Step run run') (h : run.Faithful) : run'.Faithful := by
  cases step with
  | perform request =>
    refine ends_finalState (Q := fun w : Workspace => w.Faithful run.ranges (keptAfter run.kept request w)) |>.1 ?_
    exact (ends_perform_performed h.balanced.live request).mono fun _ _ hp => h.performed hp
  | range ranging => exact ranging.faithful h

theorem Run.Steps.faithful (new : start.New) (steps : Run.Steps { workspace := start } run) : run.Faithful :=
  steps.preserve (fun _ _ => Run.Step.faithful) new.faithful

/-- What a fill that succeeds leaves in its buffer, after any run: the contents of the fill that built the
staging buffer which was kept, else its own. -/
theorem uploaded_of_steps (new : start.New) (steps : Run.Steps { workspace := start } run)
    (held : run.workspace.buffers.get? name = some b) (contents : Contents) (discard : Bool) :
    (perform (.fill name contents discard)).Ends run.workspace fun r w => r = .ok .done →
      ∃ octets, w.octets name = some octets ∧ octets.take b.requestedSize.toNat =
        ((run.kept name).getD contents).octets b.requestedSize.toNat := by
  have faithful := steps.faithful new
  refine (ends_perform_performed faithful.balanced.live _).mono fun r w performed hr => ?_
  have balanced := faithful.balanced.performed performed
  cases performed with
  | absent named absent =>
    cases List.mem_singleton.1 named
    cases held.symm.trans absent
  | noted annotates => exact annotates.elim
  | @filled _ _ _ _ b' result s held' filled =>
    cases held.symm.trans held'
    cases result with
    | error f => cases hr
    | ok _ =>
      obtain ⟨bytes, hbytes, starts⟩ := filled.brings (faithful.keeps name b held) (faithful.balanced.split held)
        faithful.known faithful.used
      have inserted : (run.workspace.buffers.insert name b').get? name = some b' := Table.get?_insert_self ..
      have binding := Machine.Owned.binding balanced (main_mem_owners inserted)
      refine ⟨bytes.data.toList, ?_, starts⟩
      rw [octets, inserted]
      dsimp only [Option.bind_eq_bind, Option.bind_some]
      rw [binding]
      dsimp only [Option.bind_some]
      rw [filled.main, hbytes]
      rfl

/-- A fill that finds no fence decides what the next one uploads. -/
theorem uploaded_unfenced :
    let start := hosted { schedule := .losesFirst .createFence } 1
    let made := Run.performed { workspace := start } (.create "a" (.deviceLocal 4 Usage.transferDestination))
    let failed := made.performed (.fill "a" .increasing true)
    start.New ∧ (perform (.fill "a" .zeros true)).Ends failed.workspace fun r w => r = .ok .done ∧
      ∃ octets, w.octets "a" = some octets ∧ octets.take 4 = [0, 1, 2, 3] := by
  intro start made failed
  have new : start.New := new_unfenced Nat.one_pos
  have steps : Run.Steps { workspace := start } failed :=
    (Relation.ReflTransGen.single (.perform _)).tail (.perform _)
  have held : (failed.workspace.buffers.get? "a").map (·.requestedSize) = some 4 := by decide +kernel
  obtain ⟨b, held, size⟩ := Option.map_eq_some_iff.1 held
  have succeeds : (perform (.fill "a" .zeros true)).Ends failed.workspace fun r _ => r = .ok .done := by
    decide +kernel
  refine ⟨new, (succeeds.and (uploaded_of_steps new steps held .zeros true)).mono fun r w h => ⟨h.1, ?_⟩⟩
  obtain ⟨octets, hoctets, starts⟩ := h.2 h.1
  rw [size] at starts
  refine ⟨octets, hoctets, starts.trans ?_⟩
  decide +kernel

end Workspace

end CopyBench
