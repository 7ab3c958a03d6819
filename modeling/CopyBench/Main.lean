import CopyBench.CommandLine.Usage
import CopyBench.Program
/-!
# The command

The command runs the program on a platform with one device, whose memory is the
host's. The time of its copies is the time that the host takes to copy as many
bytes.
-/

namespace CopyBench.Command

/-- The device whose memory is the host's. It has queues for everything, and no
timestamps. -/
def hostDevice : PhysicalDevice where
  name := .ofString "Host memory"
  vendorId := 0
  deviceId := 0
  deviceType := 4
  driverVersion := 0
  apiVersion := Instance.packVersion 1 3
  driverName := .ofString "CopyBench"
  driverInfo := .ofString ""
  families := [⟨QueueFamily.graphics ||| QueueFamily.compute ||| QueueFamily.transfer, 1, 0⟩]
  memoryTypes := ({} : MemoryProfile).types

/-- The platform with the host's device. -/
def hostPlatform : Platform where
  extensions := [.ofString Instance.requiredExtension]
  devices := [hostDevice]

/-- A span of nanoseconds. -/
def durationOf (nanoseconds : Nat) : Duration :=
  ⟨(nanoseconds / 1000000000).toUInt64, (nanoseconds % 1000000000).toUInt32⟩

/-- Times copies of `size` bytes on the host. -/
def timeCopies (size iterations : Nat) : IO (Array Duration) := do
  let source := Bytes.constant size 0
  let mut target := Bytes.constant size 1
  let mut times := #[]
  for _ in [0:iterations] do
    let start ← IO.monoNanosNow
    let overwritten := target
    target ← IO.lazyPure fun _ => Bytes.transfer source 0 overwritten 0 size
    times := times.push (durationOf ((← IO.monoNanosNow) - start))
  return times

/-- Times the copies that options ask for, where they ask for any. -/
def timesFor (options : CommandLine.Options) : IO (Array Duration) :=
  if options.info || options.list || options.noop then return #[]
  else timeCopies options.size.toNat options.iterations.toNat

/-- What an error of the host says about a file. -/
def faultOf : IO.Error → FileFault
  | .noFileOrDirectory .. => .notFound
  | .permissionDenied .. => .denied
  | .inappropriateType _ 21 _ => .isDirectory
  | .inappropriateType .. => .notDirectory
  | .invalidArgument .. => .nameTooLong
  | _ => ⟨5, "Input/output error"⟩

/-- Why the file at a path cannot be read, if it cannot. -/
def unreadable? (path : String) : IO (Option FileFault) := do
  try
    let _ ← IO.FS.readBinFile path
    return none
  catch e => return some (faultOf e)

/-- What the program needs from its surroundings when it is given some words. -/
def hostFor (words : List String) : IO Program.Host := do
  match CommandLine.parse words with
  | .error _ =>
    return { platform := hostPlatform, unreadable := fun _ => none, timing := fun _ => .zero }
  | .ok options =>
    let fault ← unreadable? options.logConfig
    let times ← timesFor options
    return {
      platform := hostPlatform
      unreadable := fun _ => fault
      timing := fun k => times.getD k .zero }

/-- Tells what the options are, or what is wrong with them. -/
def explain (stop : CommandLine.Stop) : IO Unit := do
  match stop.complaint? with
  | some complaint => IO.eprintln ("error: " ++ complaint)
  | none =>
    if stop = .displayHelp then
      for line in CommandLine.usage do
        IO.println line

end CopyBench.Command

open CopyBench in
/-- Runs the program with the words after its name. -/
def main (words : List String) : IO UInt32 := do
  let host ← Command.hostFor words
  match (Program.run host words).run { loaderLoaded := false } with
  | .error _ _ => return 101
  | .ok outcome machine =>
    IO.print (Program.output .info machine.notes.toList)
    IO.eprint (Program.errorOutput outcome)
    match outcome with
    | .stopped stop => Command.explain stop
    | _ => pure ()
    return outcome.exitCode.toUInt32
