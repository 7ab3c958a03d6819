import CopyBench.CommandLine.Scan
import CopyBench.File.LogConfig
import CopyBench.Report.Basic
import CopyBench.Suite.CopyBackend
/-!
# The program

A run of the program reads its command line, loads the logging configuration
and the loader, and then lists devices or runs the registered test cases.
-/

namespace CopyBench.Program

/-- How a run of the program ended. -/
inductive Outcome where
  /-- The command line was not understood, or asked for a text only. -/
  | stopped (stop : CommandLine.Stop)
  | completed
  /-- An error ended the run; its texts, outermost first. -/
  | failed (chain : List String)
deriving DecidableEq, Repr

/-- The exit code of a run. -/
def Outcome.exitCode : Outcome → Nat
  | stopped stop => stop.exitCode
  | completed => 0
  | failed _ => 1

/-- The name and version of the program. -/
def version : String := "vkbench 0.1.0"

/-- The lines of one cause: the first behind its number or four blanks, the
others below its text. -/
def causeLines (number : Option Nat) (text : String) : List String :=
  match number with
  | none => (text.splitOn "\n").map ("    " ++ ·)
  | some n =>
    let label := toString n
    let first := String.ofList (List.replicate (5 - label.length) ' ') ++ label ++ ": "
    match text.splitOn "\n" with
    | [] => [first]
    | line :: rest => (first ++ line) :: rest.map ("       " ++ ·)

/-- An error and its causes over several lines. Several causes are numbered. -/
def errorReport : List String → String
  | [] => ""
  | [error] => error
  | [error, cause] => "\n".intercalate (error :: "" :: "Caused by:" :: causeLines none cause)
  | error :: causes =>
    let numbered := (causes.zipIdx.map fun (cause, n) => causeLines (some n) cause).flatten
    "\n".intercalate (error :: "" :: "Caused by:" :: numbered)

/-- What a run needs from its surroundings. -/
structure Host where
  platform : Platform
  /-- Why the file at a path cannot be read, if it cannot. -/
  unreadable : String → Option FileFault
  timing : CopyBuffer.Timing

/-- Runs an action of a command, whose error gets a context. -/
def within (context : String) (act : Action Machine Unit) : Action Machine Outcome := do
  match ← Action.recover act with
  | .ok () => pure .completed
  | .error e => pure (.failed (context :: e.chain))

/-- Lists all devices. -/
def listDevices (platform : Platform) : Action Machine Outcome :=
  within "failed to enumerate devices" (DeviceReport.printAvailable platform)

/-- Tells all about the recognised devices. -/
def showDevices (platform : Platform) : Action Machine Outcome :=
  within "failed to query devices" (DeviceReport.printDetailed platform)

/-- Loads the loader twice and asks whether it is loaded. -/
def probeLoader (platform : Platform) : Action Machine Outcome := do
  let probe : Action Machine Unit := do
    platform.load
    platform.load
    Platform.requireLoaded
  match ← Action.recover probe with
  | .ok () => pure .completed
  | .error e => pure (.failed e.chain)

/-- Runs the registered test cases. -/
def runCases (host : Host) (options : CommandLine.Options) : Action Machine Outcome := do
  let arguments ← options.copyArguments
  let case ← CopyBackend.testCase host.platform options.configuration arguments host.timing
  let suite : Suite CopyBackend CopyArguments :=
    { cases := [case], filter := options.test, noop := options.noop }
  log .debug ("registered test cases: [" ++ ", ".intercalate (suite.names.map Text.quoted) ++ "]")
  let suite ← suite.run CopyBackend.backend
  suite.logResults
  match suite.state.chain with
  | [] => pure .completed
  | chain => do
    log .error (errorReport chain)
    pure (.failed chain)

/-- Runs the program with options. -/
def runWith (host : Host) (options : CommandLine.Options) : Action Machine Outcome := do
  match LogConfig.fault? host.unreadable options.logConfig with
  | some fault => pure (.failed ["failed to load logging config file", fault.message])
  | none =>
    match ← within "failed to initialize Vulkan" host.platform.load with
    | .completed =>
      if options.info then showDevices host.platform
      else if options.list then listDevices host.platform
      else runCases host options
    | other => pure other

/-- Runs the program with the words after its name. -/
def run (host : Host) (words : List String) : Action Machine Outcome :=
  match CommandLine.parse words with
  | .ok options => runWith host options
  | .error .displayVersion => do
    print (version ++ "\n")
    pure (.stopped .displayVersion)
  | .error stop => pure (.stopped stop)

/-- What a note puts on the standard output, if it is printed text or logged at
the level `threshold` or above. -/
def outputOf (threshold : Level) : Note → String
  | .printed text => text
  | note =>
    match note.logLine? threshold with
    | some line => line ++ "\n"
    | none => ""

/-- What notes put on the standard output. -/
def output (threshold : Level) (notes : List Note) : String :=
  String.join (notes.map (outputOf threshold))

/-- What a run puts on the standard error. -/
def errorOutput : Outcome → String
  | .failed chain => "Error: " ++ errorReport chain ++ "\n"
  | _ => ""

end CopyBench.Program
