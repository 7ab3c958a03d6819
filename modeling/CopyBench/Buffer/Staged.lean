import CopyBench.Buffer.Basic
import CopyBench.Buffer.Contents
import CopyBench.Pool.Session
/-!
# Device buffers

A device buffer is a bound buffer that may keep a second one, its staging
buffer, through which it is filled. The staging buffer is made by the first
fill and written then; later fills upload what it holds, until one of them
discards it. A copy between buffers is recorded into the next slot of the pool
and submitted at once.
-/

namespace CopyBench

/-- A buffer and the staging buffer it keeps. -/
structure StagedBuffer where
  main : BoundBuffer
  staging : Option BoundBuffer := none
  /-- How often staging memory has been written. -/
  stagingWrites : Nat := 0
deriving DecidableEq, Repr

namespace StagedBuffer

/-- Creates a buffer without staging. -/
def create (spec : BufferSpec) : Action Session StagedBuffer := do
  let pool ← Session.getPool
  let main ← BoundBuffer.create pool.device spec
  pure { main }

/-- The size that was asked for. -/
def requestedSize (buffer : StagedBuffer) : UInt64 := buffer.main.spec.size

/-- The staging buffer's specification: as large as the buffer, and named after it. -/
def stagingSpec (buffer : StagedBuffer) : BufferSpec :=
  let spec := BufferSpec.staging buffer.requestedSize
  match buffer.main.spec.name with
  | none => spec
  | some name => spec.withName (name ++ " (staging)")

/-- Makes a staging buffer and writes `contents` into it. -/
def buildStaging (buffer : StagedBuffer) (contents : Contents) : Action Session BoundBuffer := do
  let pool ← Session.getPool
  let staging ← BoundBuffer.create pool.device buffer.stagingSpec
  let upload : Action Machine Unit := do
    let range ← staging.map 0 buffer.requestedSize
    range.write (contents.pattern range.size.toNat)
    range.unmap
  upload.onFailure staging.release
  pure staging

/-- Copies `region` of `source` into `buffer`, and waits for it if asked to. -/
def copyFrom (buffer source : BoundBuffer) (region : Region) (wait : Bool) :
    Action Session Unit := do
  let (index, commandBuffer) ← Session.acquire
  Machine.copyBuffer commandBuffer source.handle buffer.handle region
  Session.close index (Ending.ofWait wait)

/-- The buffer with a staging buffer, which is built from `contents` if there is none. -/
def stage (buffer : StagedBuffer) (contents : Contents) : Action Session StagedBuffer := do
  match buffer.staging with
  | some _ => pure buffer
  | none => do
    let staging ← buffer.buildStaging contents
    pure { buffer with staging := some staging, stagingWrites := buffer.stagingWrites + 1 }

/-- Copies the staging buffer into the buffer and waits for it. -/
def upload (buffer : StagedBuffer) : Action Session Unit :=
  match buffer.staging with
  | none => pure ()
  | some staging => copyFrom buffer.main staging ⟨0, 0, buffer.requestedSize⟩ true

/-- The buffer without its staging buffer, which is released. -/
def discardStaging (buffer : StagedBuffer) : Action Session StagedBuffer := do
  match buffer.staging with
  | none => pure buffer
  | some staging => do
    staging.release
    pure { buffer with staging := none }

/-- Fills the buffer through its staging buffer. `contents` is looked at only
when there is no staging buffer yet. Gives the buffer as it is afterwards, also
when the fill failed: then a staging buffer that was built stays. -/
def fill (buffer : StagedBuffer) (contents : Contents) (discard : Bool) :
    Action Session (StagedBuffer × Except Failure Unit) := do
  match ← Action.attempt (buffer.stage contents) with
  | .error failure => pure (buffer, .error failure)
  | .ok buffer =>
    match ← Action.attempt buffer.upload with
    | .error failure => pure (buffer, .error failure)
    | .ok () =>
      if discard then do
        let buffer ← buffer.discardStaging
        pure (buffer, .ok ())
      else pure (buffer, .ok ())

/-- Releases the staging buffer, then the buffer. -/
def release (buffer : StagedBuffer) : Action Machine Unit := do
  match buffer.staging with
  | none => pure ()
  | some staging => staging.release
  buffer.main.release

end StagedBuffer

end CopyBench
