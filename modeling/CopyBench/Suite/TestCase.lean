import CopyBench.Suite.Backend
import CopyBench.Text.Ascii
/-!
# Test cases

A test case has a name, arguments and at most one backend for each API: a
backend that is added later replaces the one that was there. Running a case
tries its backends in order and stops at the first fatal error, with which all
its reports are lost.
-/

namespace CopyBench

/-- The outcome of a trial, with what it measured. -/
structure CaseReport where
  name : String
  api : Api
  result : TestResult
  statistics : Statistics
deriving DecidableEq, Repr

/-- A test case. -/
structure TestCase (β α : Type) where
  name : String
  arguments : α
  backends : List β := []

namespace TestCase

variable {σ β α : Type} [Console σ]

/-- Adds a backend in place of one for the same API, which is warned about. -/
def withBackend (impl : Backend σ β α) (case : TestCase β α) (backend : β) :
    Action σ (TestCase β α) := do
  let api := impl.api backend
  if case.backends.any (impl.api · = api) then
    log .warn (case.name ++ ": replacing the already registered " ++ api.name ++ " backend")
  pure { case with backends := case.backends.filter (impl.api · ≠ api) ++ [backend] }

/-- Adds backends one after another. -/
def withBackends (impl : Backend σ β α) : List β → TestCase β α → Action σ (TestCase β α)
  | [], case => pure case
  | backend :: rest, case => do
    let case ← withBackend impl case backend
    withBackends impl rest case

/-- Tries backends in order. Gives them as they are afterwards, and the reports
or the fatal error that stopped the trials. -/
def tryBackends (impl : Backend σ β α) (name : String) (arguments : α) (noop : Bool) :
    List β → Action σ (List β × Except Error (List CaseReport))
  | [] => pure ([], .ok [])
  | backend :: rest => do
    let api := impl.api backend
    log .debug ("running " ++ name ++ " [" ++ api.name ++ "]")
    let (backend, statistics, outcome) ← impl.trial backend arguments noop
    match outcome with
    | .error e => pure (backend :: rest, .error e)
    | .ok result => do
      let (rest, reports) ← tryBackends impl name arguments noop rest
      pure (backend :: rest, reports.map (⟨name, api, result, statistics⟩ :: ·))

/-- Runs a case. Gives it as it is afterwards, and its reports or its fatal error. -/
def run (impl : Backend σ β α) (case : TestCase β α) (noop : Bool) :
    Action σ (TestCase β α × Except Error (List CaseReport)) := do
  let (backends, reports) ← tryBackends impl case.name case.arguments noop case.backends
  pure ({ case with backends }, reports)

/-- Whether a filter selects a case: by its name in any case, or as one of all. -/
def selectedBy (case : TestCase β α) (filter : Option String) : Bool :=
  match filter with
  | none => true
  | some name => Text.sameUpToCase case.name name

end TestCase

end CopyBench
