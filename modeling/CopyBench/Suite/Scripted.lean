import CopyBench.Suite.Basic
/-!
# Scripted backends

A scripted backend answers setups and runs from two lists, and keeps a journal
of what was asked of it. It stands in for a device where only the order of
events matters.
-/

namespace CopyBench

/-- What a backend is asked to do. -/
inductive Stage where
  | measurement
  | setup
  | run
  | teardown
deriving DecidableEq, Repr

/-- The word for a stage. -/
def Stage.name : Stage → String
  | measurement => "measurement"
  | setup => "setup"
  | run => "run"
  | teardown => "teardown"

/-- A backend was asked to do something. -/
structure JournalEntry where
  backend : String
  stage : Stage
deriving DecidableEq, Repr

/-- The text of an entry. -/
def JournalEntry.text (entry : JournalEntry) : String := entry.backend ++ ":" ++ entry.stage.name

/-- Surroundings that keep a journal beside the console. -/
structure Journal where
  entries : Array JournalEntry := #[]
  notes : Array Note := #[]

instance : Console Journal := ⟨fun note j => { j with notes := j.notes.push note }⟩

/-- A run to be played: the samples it measures, then the error it ends with. -/
structure ScriptedRun where
  samples : List (Duration × Clock) := []
  error : Option Error := none
deriving DecidableEq, Repr

/-- A backend that plays from a script. When a list is used up, setups answer
`true` and runs succeed without a sample. -/
structure ScriptedBackend where
  name : String
  clock : Clock := .cpu
  setups : List (Except Error Bool) := []
  runs : List ScriptedRun := []

namespace ScriptedBackend

/-- Enters into the journal what the backend is asked to do. -/
def enter (stage : Stage) : Journal × ScriptedBackend → Journal × ScriptedBackend
  | (journal, backend) =>
    ({ journal with entries := journal.entries.push ⟨backend.name, stage⟩ }, backend)

/-- The next setup of the script. -/
def nextSetup : Action (Journal × ScriptedBackend) (Except Error Bool) := fun (journal, backend) =>
  match backend.setups with
  | [] => .ok (.ok true) (journal, backend)
  | answer :: rest => .ok answer (journal, { backend with setups := rest })

/-- The next run of the script. -/
def nextRun : Action (Journal × ScriptedBackend) ScriptedRun := fun (journal, backend) =>
  match backend.runs with
  | [] => .ok {} (journal, backend)
  | run :: rest => .ok run (journal, { backend with runs := rest })

/-- Measures the samples of a run of the script. -/
def pushSamples (bytes : UInt64) :
    List (Duration × Clock) → Action ((Journal × ScriptedBackend) × Statistics) Unit
  | [] => pure ()
  | (elapsed, clock) :: rest => do
    Statistics.pushSample elapsed bytes ⟨.gigabytesPerSecond, clock⟩
    pushSamples bytes rest

/-- How scripted backends run cases whose argument is a number of bytes. -/
def backend : Backend Journal ScriptedBackend UInt64 where
  api _ := .vulkan
  tag _ s := (⟨.gigabytesPerSecond, s.2.clock⟩, enter .measurement s)
  setup _ := do
    modify (enter .setup)
    match ← nextSetup with
    | .ok capable => pure capable
    | .error e => Action.fail e
  run bytes := do
    Action.onFirst (modify (enter .run))
    let script ← Action.onFirst nextRun
    pushSamples bytes script.samples
    match script.error with
    | none => pure ()
    | some e => Action.fail e
  teardown := enter .teardown

end ScriptedBackend

end CopyBench
