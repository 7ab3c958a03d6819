import CopyBench.Proofs.Buffer.Runs
/-!
# Errands

What a caller does with buffers over time. Most of it is a request, which is over when it is answered. A
range that is mapped stays open: it is read and written later, as often as is wanted, and other buffers are
used in the meantime.
-/

namespace CopyBench.Workspace

open CopyBench.Action

/-- A workspace and the ranges that are open in it. -/
abbrev Desk := Workspace × List MappedRange

/-- What is done with buffers: a request, or a range is opened, and read, written and closed later. Ranges
that are open are counted from the one that was opened last. -/
inductive Errand where
  | ask (request : BufferRequest)
  | openRange (name : String) (offset size : UInt64)
  | readRange (index : Nat)
  | writeRange (index : Nat) (bytes : ByteArray)
  | closeRange (index : Nat)

/-- What comes of an errand. -/
inductive Answer where
  | replied (reply : BufferReply)
  | opened (range : MappedRange)
  | bytes (bytes : ByteArray)
  | done
  /-- There is no such buffer, or no such range. -/
  | absent

namespace Errand

/-- Does something with a range that is open. -/
def withOpen (index : Nat) (use : MappedRange → Action Desk Answer) : Action Desk Answer := do
  match (← get).2[index]? with
  | none => pure .absent
  | some range => use range

/-- Runs an errand. -/
def perform : Errand → Action Desk Answer
  | ask request => do return .replied (← onFirst (Workspace.perform request))
  | openRange name offset size => do
    match ← onFirst (Workspace.openRange name offset size) with
    | none => return .absent
    | some range => do
      modify fun desk => (desk.1, range :: desk.2)
      return .opened range
  | readRange index => withOpen index fun range => do
    return .bytes (← onFirst (onSession (Session.onMachine range.read)))
  | writeRange index bytes => withOpen index fun range => do
    onFirst (writeOpen range bytes)
    return .done
  | closeRange index => withOpen index fun range => do
    onFirst (Workspace.closeRange range)
    modify fun desk => (desk.1, desk.2.eraseIdx index)
    return .done

end Errand

end CopyBench.Workspace
