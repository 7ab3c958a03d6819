import CopyBench.Proofs.Buffer.Shelf
import CopyBench.Proofs.Buffer.Uploads
/-!
# Desks refine shelves

On a reliable machine every errand that a shelf allows comes to what it comes to on the shelf, and leaves
the buffers looking like the shelf's cells and the open ranges showing what its windows show. The depth of
the pool occurs nowhere in a shelf, so whoever runs errands cannot tell how deep it is.
-/

namespace CopyBench.Workspace

open CopyBench.Action

/-- A range of the memory of a buffer lies where a window says. -/
structure Backs (b : StagedBuffer) (range : MappedRange) (window : Window) : Prop where
  memory : b.main.memory = range.memory
  offset : range.offset.toNat = window.offset
  size : range.size.toNat = window.size
  fits : window.offset + window.size ≤ b.main.actualSize.toNat

/-- A range lies where a window says, in the buffer that is held under the window's name. -/
def Opens (buffers : Table String StagedBuffer) (range : MappedRange) (window : Window) : Prop :=
  ∃ b, buffers.get? window.name = some b ∧ Backs b range window

/-- What is open at a place: a range and its window, on a buffer and its cell. -/
structure Opened (desk : Desk) (shelf : Shelf) (index : Nat) (range : MappedRange) (window : Window)
    (b : StagedBuffer) (cell : Cell) : Prop extends Backs b range window where
  opened : shelf.open? index = some (window, cell)
  held : desk.1.buffers.get? window.name = some b
  mirrors : StagedBuffer.Mirrors desk.1.session.machine b cell

/-- A desk looks like a shelf. -/
structure Desk.Reflects (profile : MemoryProfile) (types : List UInt32) (desk : Desk) (shelf : Shelf) : Prop where
  workspace : Workspace.Reflects profile types desk.1 shelf.store
  windows : List.Forall₂ (Opens desk.1.buffers) desk.2 shelf.windows

/-- How an errand ends: with what comes of it on the shelf, after the copies that it asks for, and with the
desk looking like the shelf after the errand. -/
def Desk.Follows (profile : MemoryProfile) (types : List UInt32) (desk : Desk) (shelf : Shelf) (errand : Errand)
    (r : Except Failure Answer) (desk' : Desk) : Prop :=
  ∃ answer, r = .ok answer ∧ answer.summary = (shelf.perform profile errand).1 ∧
    Desk.Reflects profile types desk' (shelf.perform profile errand).2 ∧
    desk'.1.session.machine.counters.copiesExecuted =
      desk.1.session.machine.counters.copiesExecuted + shelf.copies errand

section Errands

variable {profile : MemoryProfile} {types : List UInt32} {w w' : Workspace} {store : Store} {shelf shelf' : Shelf}
  {desk desk' : Desk} {buffers buffers' : Table String StagedBuffer} {b : StagedBuffer} {cell : Cell}
  {name : String} {range : MappedRange} {window : Window} {index n : Nat}

/-! ## Windows while buffers are used -/

theorem Reflects.live (h : Reflects profile types w store) : w.Live := by
  intro name b hb
  obtain ⟨hnone, -⟩ | ⟨b', cell, hb', -, mirrors⟩ := h.cases name
  · cases hb.symm.trans hnone
  · cases hb.symm.trans hb'
    obtain ⟨array, hget, -⟩ := mirrors.main.memory
    rw [Table.contains, hget]
    rfl

/-- A request leaves a buffer in its memory, unless it drops the buffer. -/
theorem Performed.main {request : BufferRequest} {r : Except Failure BufferReply}
    (performed : Performed w request r w') (hb : w.buffers.get? name = some b)
    (kept : request.dropped? ≠ some name) : ∃ b', w'.buffers.get? name = some b' ∧ b'.main = b.main := by
  have other {name' : String} (dropped : request.dropped? = some name') : name ≠ name' := by
    rintro rfl
    exact kept dropped
  cases performed with
  | absent | inspected | noted | unmade | copied | read | written | pooled => exact ⟨b, hb, rfl⟩
  | made | replaced => exact ⟨b, (Table.get?_insert_of_ne _ _ (other rfl)).trans hb, rfl⟩
  | released => exact ⟨b, (Table.get?_erase_of_ne _ (other rfl)).trans hb, rfl⟩
  | @filled name' _ _ _ b' _ _ held filled =>
    by_cases same : name = name'
    · subst same
      cases hb.symm.trans held
      exact ⟨b', Table.get?_insert_self .., filled.main⟩
    · exact ⟨b, (Table.get?_insert_of_ne _ _ same).trans hb, rfl⟩

/-- Ranges go on lying where their windows do, as long as the buffers keep their memories. -/
theorem windows_kept {ranges : List MappedRange} {windows : List Window}
    (h : List.Forall₂ (Opens buffers) ranges windows)
    (main : ∀ window ∈ windows, ∀ b, buffers.get? window.name = some b →
      ∃ b', buffers'.get? window.name = some b' ∧ b'.main = b.main) :
    List.Forall₂ (Opens buffers') ranges windows := by
  induction h with
  | nil => exact .nil
  | cons opens _ ih =>
    obtain ⟨first, rest⟩ := List.forall_mem_cons.1 main
    obtain ⟨b, hb, backs⟩ := opens
    obtain ⟨b', hb', hmain⟩ := first b hb
    exact .cons ⟨b', hb', hmain ▸ backs.memory, backs.offset, backs.size, hmain ▸ backs.fits⟩ (ih rest)

/-- A range and its window are closed together. -/
theorem windows_eraseIdx {ranges : List MappedRange} {windows : List Window}
    (h : List.Forall₂ (Opens buffers) ranges windows) (index : Nat) :
    List.Forall₂ (Opens buffers) (ranges.eraseIdx index) (windows.eraseIdx index) := by
  induction h generalizing index with
  | nil => exact .nil
  | cons first rest ih =>
    cases index with
    | zero => exact rest
    | succ index => exact .cons first (ih index)

/-- At every place something is open on both, or on neither. -/
theorem Desk.Reflects.cases (h : Desk.Reflects profile types desk shelf) (index : Nat) :
    (desk.2[index]? = none ∧ shelf.open? index = none) ∨
      ∃ range window b cell, desk.2[index]? = some range ∧ Opened desk shelf index range window b cell := by
  have length := h.windows.length_eq
  by_cases within : index < desk.2.length
  · have within' : index < shelf.windows.length := length ▸ within
    obtain ⟨b, hb, backs⟩ := h.windows.get within within'
    obtain ⟨hnone, -⟩ | ⟨b', cell, hb', hcell, mirrors⟩ := h.workspace.cases shelf.windows[index].name
    · cases hb.symm.trans hnone
    · cases hb.symm.trans hb'
      have place : shelf.open? index = some (shelf.windows[index], cell) := by
        simp [Shelf.open?, List.getElem?_eq_getElem within', hcell]
      exact .inr ⟨_, _, b, cell, List.getElem?_eq_getElem within, backs, place, hb, mirrors⟩
  · have beyond := Nat.not_lt.1 within
    refine .inl ⟨List.getElem?_eq_none beyond, ?_⟩
    simp [Shelf.open?, List.getElem?_eq_none (length ▸ beyond)]

/-! ## Errands -/

theorem Desk.follows_of {errand : Errand} {answer : Answer}
    (hperform : shelf.perform profile errand = (answer.summary, shelf')) (hcopies : shelf.copies errand = n)
    (reflects : Desk.Reflects profile types desk' shelf')
    (hcount : desk'.1.session.machine.counters.copiesExecuted =
      desk.1.session.machine.counters.copiesExecuted + n) :
    Desk.Follows profile types desk shelf errand (.ok answer) desk' := by
  refine ⟨answer, rfl, ?_, ?_, ?_⟩
  · rw [hperform]
  · rw [hperform]
    exact reflects
  · rw [hcopies, hcount]

theorem follows_ask (reflects : Desk.Reflects profile types desk shelf) (request : BufferRequest)
    (allowed : shelf.Allows profile types (.ask request)) :
    (Errand.ask request).perform.Ends desk (Desk.Follows profile types desk shelf (.ask request)) := by
  obtain ⟨allowed, kept⟩ := allowed
  have performed := ends_perform_performed reflects.workspace.live request
  rw [Errand.perform, ends_bind, ends_onFirst]
  refine ((ends_perform reflects.workspace request allowed).and performed).mono fun r w h => ?_
  obtain ⟨⟨reply, rfl, hreply, workspace, hcount⟩, performed⟩ := h
  refine ⟨_, rfl, congrArg ShelfAnswer.replied hreply, ⟨workspace, ?_⟩, hcount⟩
  exact windows_kept reflects.windows fun window mem b hb => performed.main hb (kept window mem)

theorem follows_openRange (reflects : Desk.Reflects profile types desk shelf) (name : String)
    (offset size : UInt64) (allowed : shelf.Allows profile types (.openRange name offset size)) :
    (Errand.openRange name offset size).perform.Ends desk
      (Desk.Follows profile types desk shelf (.openRange name offset size)) := by
  rw [Errand.perform, ends_bind, ends_onFirst, openRange]
  refine ends_held_reflected reflects.workspace name (fun hcell => ?_) fun b cell hb hcell mirrors => ?_
  · exact Desk.follows_of (by simp [Shelf.perform, hcell, Answer.summary]) rfl reflects rfl
  dsimp only
  have fits := allowed cell hcell
  have hreach : (b.main.mappedSize offset size).toNat = cell.reach offset size :=
    (BoundBuffer.toNat_mappedSize ..).trans (BoundBuffer.reach_of_length mirrors.main.length offset size)
  rw [ends_bind, ends_onSession, Session.ends_onMachine, BoundBuffer.ends_map_ok
    reflects.workspace.ready.reliable mirrors.main (by rwa [hreach])]
  have step := Session.Step.of_local reflects.workspace.ready
    (BoundBuffer.local_mapped desk.1.session.machine b.main.memory offset (b.main.mappedSize offset size))
  have opens : Opens desk.1.buffers ⟨b.main.memory, offset, b.main.mappedSize offset size⟩
      ⟨name, offset.toNat, cell.reach offset size⟩ :=
    ⟨b, hb, rfl, rfl, hreach, mirrors.main.length ▸ fits⟩
  have hperform : shelf.perform profile (.openRange name offset size) =
      (Answer.summary (.opened ⟨b.main.memory, offset, b.main.mappedSize offset size⟩),
        ⟨shelf.store, ⟨name, offset.toNat, cell.reach offset size⟩ :: shelf.windows⟩) := by
    simp [Shelf.perform, hcell, Answer.summary, hreach]
  exact Desk.follows_of hperform rfl
    ⟨reflects.workspace.of_step step, .cons opens reflects.windows⟩ step.copiesExecuted

/-- Where nothing is open an errand changes nothing. -/
theorem follows_withOpen (reflects : Desk.Reflects profile types desk shelf) {errand : Errand}
    {use : MappedRange → Action Desk Answer} (hcopies : shelf.copies errand = 0)
    (absent : shelf.open? index = none → shelf.perform profile errand = (.absent, shelf))
    (used : ∀ range window b cell, Opened desk shelf index range window b cell →
      (use range).Ends desk (Desk.Follows profile types desk shelf errand)) :
    (Errand.withOpen index use).Ends desk (Desk.Follows profile types desk shelf errand) := by
  rw [Errand.withOpen, ends_bind, ends_get]
  dsimp only
  obtain ⟨hrange, hwindow⟩ | ⟨range, window, b, cell, hrange, opened⟩ := reflects.cases index
  · rw [hrange]
    exact Desk.follows_of (absent hwindow) hcopies reflects rfl
  · rw [hrange]
    exact used range window b cell opened

theorem follows_readRange (reflects : Desk.Reflects profile types desk shelf) (index : Nat) :
    (Errand.readRange index).perform.Ends desk (Desk.Follows profile types desk shelf (.readRange index)) := by
  refine follows_withOpen reflects rfl (fun hnone => by simp [Shelf.perform, hnone]) ?_
  intro range window b cell opened
  rw [ends_bind, ends_onFirst, ends_onSession, Session.ends_onMachine, MappedRange.read, ends_bind,
    Machine.ends_contents]
  obtain ⟨array, hget, hbytes⟩ := opened.mirrors.main.memory
  rw [← opened.memory, hget, Option.getD_some, opened.offset, opened.size]
  have shown : (Bytes.slice array window.offset window.size).data.toList = cell.shown window := by
    rw [Cell.shown, Cell.range, ← hbytes]
    simp [Bytes.slice]
  exact Desk.follows_of (by simp [Shelf.perform, opened.opened, Answer.summary, shown]) rfl reflects rfl

theorem follows_writeRange (reflects : Desk.Reflects profile types desk shelf) (index : Nat) (bytes : ByteArray) :
    (Errand.writeRange index bytes).perform.Ends desk
      (Desk.Follows profile types desk shelf (.writeRange index bytes)) := by
  refine follows_withOpen reflects rfl (fun hnone => by simp [Shelf.perform, hnone]) ?_
  intro range window b cell opened
  rw [ends_bind, ends_onFirst, writeOpen, ends_onSession, Session.ends_onMachine, MappedRange.write,
    Machine.ends_overwrite, ← opened.memory, opened.offset, opened.size]
  have step := Session.Step.of_local reflects.workspace.ready (BoundBuffer.local_overwritten
    desk.1.session.machine b.main.memory window.offset (bytes.extract 0 window.size))
  -- What is written was cut to the range, and the range lies in the buffer.
  have cut : (bytes.extract 0 window.size).size ≤ window.size := opened.size ▸ BoundBuffer.size_cut range bytes
  have stored := BoundBuffer.stored_overwritten opened.mirrors.main
    (Nat.le_trans (Nat.add_le_add_left cut window.offset) (opened.mirrors.main.length ▸ opened.fits))
  have hpatch : (bytes.extract 0 window.size).data.toList = bytes.data.toList.take window.size := by simp
  rw [hpatch] at stored
  have written : StagedBuffer.Mirrors _ b (cell.writtenThrough window bytes.data.toList) :=
    opened.mirrors.rewritten step.toSameSetting step.toKeeps stored
  have hperform : shelf.perform profile (.writeRange index bytes) =
      (.done, ⟨shelf.store.insert window.name (cell.writtenThrough window bytes.data.toList), shelf.windows⟩) := by
    simp [Shelf.perform, opened.opened]
  exact Desk.follows_of hperform rfl
    ⟨reflects.workspace.update step opened.held (StagedBuffer.mem_objects_memory b) written, reflects.windows⟩
    step.copiesExecuted

theorem follows_closeRange (reflects : Desk.Reflects profile types desk shelf) (index : Nat) :
    (Errand.closeRange index).perform.Ends desk (Desk.Follows profile types desk shelf (.closeRange index)) := by
  refine follows_withOpen reflects rfl (fun hnone => by simp [Shelf.perform, hnone]) ?_
  intro range window b cell opened
  rw [ends_bind, ends_onFirst, closeRange, ends_onSession, Session.ends_onMachine, MappedRange.unmap,
    Machine.ends_unmapMemory]
  have step := Session.Step.of_local reflects.workspace.ready
    (BoundBuffer.local_unmapped desk.1.session.machine range.memory)
  have hperform : shelf.perform profile (.closeRange index) =
      (.done, ⟨shelf.store, shelf.windows.eraseIdx index⟩) := by
    simp [Shelf.perform, opened.opened]
  exact Desk.follows_of hperform rfl
    ⟨reflects.workspace.of_step step, windows_eraseIdx reflects.windows index⟩ step.copiesExecuted

/-- Every errand that the shelf allows comes to what it comes to on the shelf. -/
theorem Errand.ends_perform (reflects : Desk.Reflects profile types desk shelf) (errand : Errand)
    (allowed : shelf.Allows profile types errand) :
    errand.perform.Ends desk (Desk.Follows profile types desk shelf errand) := by
  cases errand with
  | ask request => exact follows_ask reflects request allowed
  | openRange name offset size => exact follows_openRange reflects name offset size allowed
  | readRange index => exact follows_readRange reflects index
  | writeRange index bytes => exact follows_writeRange reflects index bytes
  | closeRange index => exact follows_closeRange reflects index

/-! ## Runs of errands -/

namespace Desk

/-- After each of some errands that the shelf allows there is the same to see of both. -/
theorem Reflects.observe_eq (reflects : Reflects profile types desk shelf) {errands : List Errand}
    (allowed : Shelf.AllowsAll profile types errands shelf) :
    observe errands desk = Shelf.observe profile errands shelf := by
  induction errands generalizing desk shelf with
  | nil => rfl
  | cons errand errands ih =>
    obtain ⟨first, rest⟩ := allowed
    have hends := Errand.ends_perform reflects errand first
    unfold Ends at hends
    rw [observe, Shelf.observe]
    rcases hrun : errand.perform desk with ⟨answer, desk'⟩ | ⟨f, desk'⟩ <;> rw [hrun] at hends
    · obtain ⟨_, ⟨⟩, hanswer, reflects', hcount⟩ := hends
      dsimp only
      rw [ih reflects' rest]
      congr 1
      unfold observation
      congr 1
      · exact congrArg Except.ok hanswer
      · exact funext reflects'.workspace.octets_eq
      · rw [hcount, Nat.add_sub_cancel_left]
      · exact reflects'.workspace.waiting_eq
      · exact reflects'.workspace.ready.autoFlushes
    · obtain ⟨_, h, -⟩ := hends
      cases h

/-- Whatever the depth of its pool, a new workspace shows after every errand what an empty shelf shows: what
comes of the errand, the bytes of each buffer that is held, and each copy executed by its own request. So
workspaces with pools of different depths show the same. -/
theorem observe_opened {m : Machine} (reliable : m.Reliable)
    (unused : ∀ b, m.lastHandle < b → m.work b = []) {device : Device} (present : device.isNull = false)
    (queue : Handle) (family : UInt32) (level : Int) {depth depth' : Nat} (hdepth : 0 < depth)
    (hdepth' : 0 < depth') {errands : List Errand}
    (allowed : Shelf.AllowsAll m.profile device.memoryTypes errands {}) :
    CommandPool.create device queue depth family level m = .ok
        (opened m device queue depth family level).session.pool
        (opened m device queue depth family level).session.machine ∧
      observe errands (opened m device queue depth family level, []) =
        Shelf.observe m.profile errands {} ∧
      observe errands (opened m device queue depth' family level, []) =
        observe errands (opened m device queue depth family level, []) := by
  obtain ⟨created, reflects⟩ := reflects_opened reliable unused present queue hdepth family level
  obtain ⟨-, reflects'⟩ := reflects_opened reliable unused present queue hdepth' family level
  have shown : observe errands (opened m device queue depth family level, []) = Shelf.observe m.profile errands {} :=
    Reflects.observe_eq ⟨reflects, .nil⟩ allowed
  have shown' : observe errands (opened m device queue depth' family level, []) =
      Shelf.observe m.profile errands {} :=
    Reflects.observe_eq ⟨reflects', .nil⟩ allowed
  exact ⟨created, shown, shown'.trans shown.symm⟩

/-- Two bytes of a buffer are mapped. While they are, another buffer is filled. Three octets are written, of
which the last is left out; then the other buffer is copied onto itself one byte further, and one of its
bytes to the end of the first. Pools of one and of three command buffers show the same. -/
theorem observe_opened_while_mapped :
    let device : Device := { memoryTypes := [1, 6, 7] }
    let errands : List Errand := [.ask (.create "a" (.deviceLocal 4 3)), .ask (.create "b" (.deviceLocal 4 3)),
      .openRange "a" 1 2, .ask (.fill "b" .increasing true), .writeRange 0 ⟨#[7, 8, 9]⟩, .closeRange 0,
      .ask (.copy "b" "b" ⟨0, 1, 3⟩ false), .ask (.copy "a" "b" ⟨1, 255, 1⟩ true)]
    observe errands (opened {} device 1 1 0 0, []) = Shelf.observe {} errands {} ∧
      observe errands (opened {} device 1 3 0 0, []) = observe errands (opened {} device 1 1 0 0, []) := by
  intro device errands
  have allowed : Shelf.AllowsAll ({} : Machine).profile device.memoryTypes errands {} := by decide +kernel
  exact (observe_opened ⟨fun _ _ => rfl, rfl, rfl⟩ (fun _ _ => rfl) rfl 1 0 0 (by decide) (by decide) allowed).2

end Desk

end Errands

end CopyBench.Workspace
