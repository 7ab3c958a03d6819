import CopyBench.Buffer.Staged
import CopyBench.Sample.Statistics
/-!
# Measuring copies between buffers

Two buffers in the device's own memory are filled alike, and copies from the
first to the second are timed, each waited for. Whatever happens, both
buffers are released, the destination first.
-/

namespace CopyBench

/-- What a run of the copy benchmark is asked for. -/
structure CopyArguments where
  /-- Bytes copied per iteration. -/
  size : UInt64 := 268435456
  iterations : Nat := 10
  contents : Contents := .zeros
  /-- Whether samples are tagged as timed by device events. -/
  useEvents : Bool := false
deriving DecidableEq, Repr

namespace CopyArguments

/-- What the samples of a run say. -/
def tag (arguments : CopyArguments) : Tag :=
  ⟨.gigabytesPerSecond, if arguments.useEvents then .gpu else .cpu⟩

end CopyArguments

namespace CopyBuffer

/-- The name of the benchmark. -/
def name : String := "CopyBuffer"

/-- The time that the copies of a run took, by the number of copies before. -/
abbrev Timing := Nat → Duration

/-- The buffer that is copied from. -/
def sourceSpec (size : UInt64) : BufferSpec :=
  (BufferSpec.deviceLocal size
    (Usage.transferSource ||| Usage.transferDestination ||| Usage.storage)).withName "copy source"

/-- The buffer that is copied to. -/
def destinationSpec (size : UInt64) : BufferSpec :=
  (BufferSpec.deviceLocal size
    (Usage.transferDestination ||| Usage.storage)).withName "copy destination"

/-- Fills the source, then the destination, and gives both as they are afterwards. -/
def fillBoth (contents : Contents) (source destination : StagedBuffer) :
    Action Session ((StagedBuffer × StagedBuffer) × Except Failure Unit) := do
  let (source, filled) ← source.fill contents true
  match filled with
  | .error failure => pure ((source, destination), .error failure)
  | .ok () => do
    let (destination, filled) ← destination.fill contents true
    pure ((source, destination), filled)

/-- Times `n` copies, after `k` that were timed before. -/
def timedCopies (source destination : BoundBuffer) (arguments : CopyArguments) (timing : Timing) :
    Nat → Nat → Action (Session × Statistics) Unit
  | _, 0 => pure ()
  | k, n + 1 => do
    Action.onFirst (StagedBuffer.copyFrom destination source ⟨0, 0, arguments.size⟩ true)
    Statistics.pushSample (timing k) arguments.size arguments.tag
    timedCopies source destination arguments timing (k + 1) n

/-- Logs what is about to be measured. -/
def logStart (arguments : CopyArguments) (destination : StagedBuffer) : Action Session Unit := do
  let pool ← Session.getPool
  log .debug (name ++ ": " ++ toString arguments.iterations ++ " iteration(s) of " ++
    toString arguments.size.toNat ++ " byte(s) (" ++
    toString destination.main.actualSize.toNat ++ " allocated) on queue family " ++
    toString pool.family.toNat ++ ", measured as " ++ arguments.tag.text)

/-- Logs what measuring took. -/
def logEnd (source destination : StagedBuffer) : Action Session Unit := do
  let pool ← Session.getPool
  log .debug (name ++ ": " ++ toString (source.stagingWrites + destination.stagingWrites) ++
    " staging write(s), " ++ toString pool.autoFlushes ++ " auto-flush(es)")

/-- Releases the destination, then the source. -/
def releaseBoth (source destination : StagedBuffer) : Action Session Unit := do
  destination.release
  source.release

/-- Fills both buffers, then times copies between them. -/
def measure (arguments : CopyArguments) (timing : Timing) :
    Action (Session × Statistics) Unit := do
  let source ← Action.onFirst (StagedBuffer.create (sourceSpec arguments.size))
  let destination ← Action.onFirst
    ((StagedBuffer.create (destinationSpec arguments.size)).onFailure source.release)
  let ((source, destination), filled) ←
    Action.onFirst (fillBoth arguments.contents source destination)
  let measuring : Action (Session × Statistics) Unit := do
    Action.conclude filled
    Action.onFirst (logStart arguments destination)
    timedCopies source.main destination.main arguments timing 0 arguments.iterations
    Action.onFirst (logEnd source destination)
  measuring.ensuring (Action.onFirst (releaseBoth source destination))

end CopyBuffer

end CopyBench
