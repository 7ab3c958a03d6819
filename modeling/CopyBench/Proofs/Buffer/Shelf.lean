import CopyBench.Proofs.Buffer.Errands
import CopyBench.Proofs.Buffer.Store
/-!
# A store with open windows

A shelf is a store whose cells can be opened. A window shows some octets of a cell, and stays open while
other cells are used. What is written through it replaces octets that it shows and no others. A shelf runs
the same errands as a workspace and knows nothing of devices either: every copy is executed at once.
-/

namespace CopyBench

open Workspace (Answer Desk Errand)

/-- A part of a cell that is open. -/
structure Window where
  name : String
  offset : Nat
  size : Nat
deriving DecidableEq, Repr

/-- The octets of a cell that a window shows. -/
def Cell.shown (cell : Cell) (window : Window) : List UInt8 := cell.range window.offset window.size

/-- The cell after octets were written through a window, from its start on. What goes beyond the window is
left out. -/
def Cell.writtenThrough (cell : Cell) (window : Window) (octets : List UInt8) : Cell :=
  { cell with bytes := patched cell.bytes window.offset (octets.take window.size) }

/-- What a shelf answers. -/
inductive ShelfAnswer where
  | replied (reply : StoreReply)
  | opened (offset size : Nat)
  | bytes (bytes : List UInt8)
  | done
  | absent
deriving DecidableEq, Repr

/-- An answer without its handles. -/
def Workspace.Answer.summary : Answer → ShelfAnswer
  | .replied reply => .replied reply.summary
  | .opened range => .opened range.offset.toNat range.size.toNat
  | .bytes octets => .bytes octets.data.toList
  | .done => .done
  | .absent => .absent

/-- The name under which a request drops what is held. -/
def BufferRequest.dropped? : BufferRequest → Option String
  | .create name _ | .release name => some name
  | _ => none

/-- A store and the windows that are open on its cells, of which the last one opened is the first. -/
structure Shelf where
  store : Store := {}
  windows : List Window := []

namespace Shelf

variable (profile : MemoryProfile) (types : List UInt32)

/-- A window that is open, with its cell. -/
def open? (shelf : Shelf) (index : Nat) : Option (Window × Cell) := do
  let window ← shelf.windows[index]?
  let cell ← shelf.store.get? window.name
  return (window, cell)

/-- What an errand does to a shelf, and what comes of it. -/
def perform (shelf : Shelf) : Errand → ShelfAnswer × Shelf
  | .ask request =>
    let (reply, store) := shelf.store.perform profile request
    (.replied reply, { shelf with store })
  | .openRange name offset size =>
    match shelf.store.get? name with
    | none => (.absent, shelf)
    | some cell =>
      let window : Window := ⟨name, offset.toNat, cell.reach offset size⟩
      (.opened window.offset window.size, { shelf with windows := window :: shelf.windows })
  | .readRange index =>
    match shelf.open? index with
    | none => (.absent, shelf)
    | some (window, cell) => (.bytes (cell.shown window), shelf)
  | .writeRange index bytes =>
    match shelf.open? index with
    | none => (.absent, shelf)
    | some (window, cell) =>
      let written := cell.writtenThrough window bytes.data.toList
      (.done, { shelf with store := shelf.store.insert window.name written })
  | .closeRange index =>
    match shelf.open? index with
    | none => (.absent, shelf)
    | some _ => (.done, { shelf with windows := shelf.windows.eraseIdx index })

/-- Whether an errand can succeed: the store allows what is asked for, a window that is opened lies in its
cell, and no cell is dropped while a window is open on it. -/
def Allows (shelf : Shelf) : Errand → Prop
  | .ask request => shelf.store.Allows profile types request ∧
      ∀ window ∈ shelf.windows, request.dropped? ≠ some window.name
  | .openRange name offset size => ∀ cell, shelf.store.get? name = some cell →
      offset.toNat + cell.reach offset size ≤ cell.bytes.length
  | .readRange _ | .writeRange _ _ | .closeRange _ => True

instance (shelf : Shelf) : DecidablePred (shelf.Allows profile types)
  | .ask _ => inferInstanceAs (Decidable (_ ∧ _))
  | .openRange name offset size => inferInstanceAs (Decidable (∀ cell ∈ shelf.store.get? name,
      offset.toNat + cell.reach offset size ≤ cell.bytes.length))
  | .readRange _ | .writeRange _ _ | .closeRange _ => inferInstanceAs (Decidable True)

/-- Whether each of some errands can succeed after those before it. -/
def AllowsAll : List Errand → Shelf → Prop
  | [], _ => True
  | errand :: errands, shelf =>
    shelf.Allows profile types errand ∧ AllowsAll errands (shelf.perform profile errand).2

instance decidableAllowsAll : (errands : List Errand) → (shelf : Shelf) →
    Decidable (AllowsAll profile types errands shelf)
  | [], _ => inferInstanceAs (Decidable True)
  | _ :: errands, _ => @instDecidableAnd _ _ _ (decidableAllowsAll errands _)

/-- How many copies an errand has executed. -/
def copies (shelf : Shelf) : Errand → Nat
  | .ask request => shelf.store.copies request
  | _ => 0

end Shelf

/-! ## What a caller sees -/

/-- What there is to see after an errand. -/
structure Observation where
  answer : Except Failure ShelfAnswer
  /-- The octets of what is held under each name. -/
  octets : String → Option (List UInt8)
  /-- How many copies the errand executed. -/
  copies : Nat
  /-- The copies that wait in the pool. -/
  waiting : List RecordedCopy
  autoFlushes : Nat

/-- What there is to see after each of some errands in a shelf. -/
def Shelf.observe (profile : MemoryProfile) : List Errand → Shelf → List Observation
  | [], _ => []
  | errand :: errands, shelf =>
    let after := (shelf.perform profile errand).2
    { answer := .ok (shelf.perform profile errand).1
      octets := fun name => (after.store.get? name).map (·.bytes)
      copies := shelf.copies errand
      waiting := []
      autoFlushes := 0 } :: Shelf.observe profile errands after

namespace Workspace.Desk

/-- What there is to see of a desk, given what there was before. -/
def observation (before : Desk) (answer : Except Failure Answer) (desk : Desk) : Observation where
  answer := answer.map Answer.summary
  octets := desk.1.octets
  copies := desk.1.session.machine.counters.copiesExecuted - before.1.session.machine.counters.copiesExecuted
  waiting := desk.1.waiting
  autoFlushes := desk.1.session.pool.autoFlushes

/-- What there is to see after each of some errands on a desk, whatever becomes of each. -/
def observe : List Errand → Desk → List Observation
  | [], _ => []
  | errand :: errands, before =>
    match errand.perform before with
    | .ok answer desk => observation before (.ok answer) desk :: observe errands desk
    | .error f desk => observation before (.error f) desk :: observe errands desk

end Workspace.Desk

end CopyBench
