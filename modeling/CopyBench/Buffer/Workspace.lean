import CopyBench.Buffer.Staged
import CopyBench.Pool.Operation
/-!
# Workspaces

A workspace is a session with buffers held under names. Everything a caller can
do with buffers and the pool is a request; a request that names a buffer that
is not held is answered so and does nothing.
-/

namespace CopyBench

/-- A session and the buffers held in it. -/
structure Workspace where
  session : Session
  buffers : Table String StagedBuffer := {}

instance : Console Workspace := ⟨fun note w => { w with session := Console.tell note w.session }⟩

/-- What a mapped range is overwritten with. -/
inductive Filling where
  | constant (octet : UInt8)
  | pattern (contents : Contents)
deriving DecidableEq, Repr

/-- The first `n` bytes of a filling. -/
def Filling.bytes : Filling → Nat → ByteArray
  | constant octet, n => Bytes.constant n octet
  | pattern contents, n => contents.pattern n

/-- A request to a workspace. -/
inductive BufferRequest where
  /-- Creates a buffer; one that was held under the name is released after that. -/
  | create (name : String) (spec : BufferSpec)
  | fill (name : String) (contents : Contents) (discard : Bool)
  | copy (name source : String) (region : Region) (wait : Bool)
  | read (name : String) (offset size : UInt64)
  | write (name : String) (offset size : UInt64) (filling : Filling)
  | inspect (name : String)
  | release (name : String)
  | attachName (handle : Handle) (text : String)
  | onPool (operation : PoolOperation)
deriving DecidableEq, Repr

/-- What a request is answered. -/
inductive BufferReply where
  | done
  | buffer (buffer : StagedBuffer)
  | bytes (bytes : List UInt8)
  | written (size : Nat)
  | released (held : Bool)
  | pool (reply : PoolReply)
  /-- The request names a buffer that is not held. -/
  | notHeld
deriving DecidableEq, Repr

namespace Workspace

variable {α : Type}

/-- Runs an action on the session of a workspace. -/
def onSession (act : Action Session α) : Action Workspace α := fun w =>
  let { session, buffers } := w
  match act session with
  | .ok a session => .ok a { session, buffers }
  | .error f session => .error f { session, buffers }

instance : MonadLift (Action Session) (Action Workspace) := ⟨onSession⟩

/-- The buffer held under a name. -/
def held (name : String) : Action Workspace (Option StagedBuffer) := fun w =>
  .ok (w.buffers.get? name) w

/-- Holds a buffer under a name. -/
def hold (name : String) (buffer : StagedBuffer) : Action Workspace Unit :=
  modify fun w => { w with buffers := w.buffers.insert name buffer }

/-- Releases a buffer, on the machine of the session. -/
def releaseBuffer (buffer : StagedBuffer) : Action Workspace Unit :=
  onSession (Session.onMachine buffer.release)

/-- Fills a held buffer, and holds it as it is afterwards. -/
def fill (name : String) (buffer : StagedBuffer) (contents : Contents) (discard : Bool) :
    Action Workspace Unit := do
  let (buffer, result) ← onSession (buffer.fill contents discard)
  hold name buffer
  Action.conclude result

/-- Maps a range, uses it and ends the mapping. -/
def withRange (buffer : StagedBuffer) (offset size : UInt64)
    (use : MappedRange → Action Machine α) : Action Workspace α :=
  onSession (Session.onMachine do
    let range ← buffer.main.map offset size
    (use range).ensuring range.unmap)

/-- Performs a request. -/
def perform : BufferRequest → Action Workspace BufferReply
  | .create name spec => do
    let buffer ← onSession (StagedBuffer.create spec)
    match ← held name with
    | none => hold name buffer
    | some replaced => do
      hold name buffer
      releaseBuffer replaced
    return .buffer buffer
  | .fill name contents discard => do
    match ← held name with
    | none => return .notHeld
    | some buffer => do
      fill name buffer contents discard
      return .done
  | .copy name source region wait => do
    match ← held name, ← held source with
    | some buffer, some source => do
      onSession (StagedBuffer.copyFrom buffer.main source.main region wait)
      return .done
    | _, _ => return .notHeld
  | .read name offset size => do
    match ← held name with
    | none => return .notHeld
    | some buffer => do
      let bytes ← withRange buffer offset size MappedRange.read
      return .bytes bytes.data.toList
  | .write name offset size filling => do
    match ← held name with
    | none => return .notHeld
    | some buffer =>
      withRange buffer offset size fun range => do
        range.write (filling.bytes range.size.toNat)
        return .written range.size.toNat
  | .inspect name => do
    match ← held name with
    | none => return .notHeld
    | some buffer => return .buffer buffer
  | .release name => do
    match ← held name with
    | none => return .released false
    | some buffer => do
      modify fun w => { w with buffers := w.buffers.erase name }
      releaseBuffer buffer
      return .released true
  | .attachName handle text => do
    onSession do
      let pool ← Session.getPool
      (pool.device.nameObject Device.bufferType handle text).orOperational
        Entrypoint.nameObject.symbol
    return .done
  | .onPool operation => do return .pool (← onSession (Session.perform operation))

/-- The names of the held buffers in ascending order. -/
def heldNames (w : Workspace) : List String := w.buffers.keys.mergeSort fun a b => !(b < a)

/-- Releases the buffers held under some names, in order. -/
def releaseEach : List String → Action Workspace Unit
  | [] => pure ()
  | name :: names => do
    let _ ← perform (.release name)
    releaseEach names

/-- Releases all held buffers in ascending order of their names. -/
def releaseAll : Action Workspace Unit := do
  let w ← get
  releaseEach w.heldNames

end Workspace

end CopyBench
