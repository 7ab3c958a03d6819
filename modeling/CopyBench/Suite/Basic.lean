import CopyBench.Suite.TestCase
/-!
# Suites

A suite runs the selected ones of its test cases in the order they were
registered, up to the first fatal error, and keeps the reports of the cases
before it.
-/

namespace CopyBench

/-- Where a suite stands. -/
inductive SuiteState where
  | running
  | finished
  /-- The run of the named case met a fatal error. -/
  | fatalError (caseName : String) (cause : Error)
deriving DecidableEq, Repr

/-- The texts of what stopped a suite, outermost first. -/
def SuiteState.chain : SuiteState → List String
  | fatalError caseName cause => (caseName ++ " failed fatally") :: cause.chain
  | _ => []

/-- Test cases and what came of them so far. -/
structure Suite (β α : Type) where
  cases : List (TestCase β α)
  filter : Option String := none
  noop : Bool := false
  reports : List CaseReport := []
  state : SuiteState := .running

namespace Suite

variable {σ β α : Type} [Console σ]

/-- The names of all cases. -/
def names (suite : Suite β α) : List String := suite.cases.map (·.name)

/-- The names of the selected cases. -/
def selectedNames (suite : Suite β α) : List String :=
  (suite.cases.filter (·.selectedBy suite.filter)).map (·.name)

/-- Runs the selected cases in order. Gives all cases as they are afterwards,
the reports, and the fatal error that stopped the run with its case's name. -/
def runCases (impl : Backend σ β α) (filter : Option String) (noop : Bool) :
    List (TestCase β α) →
      Action σ (List (TestCase β α) × List CaseReport × Option (String × Error))
  | [] => pure ([], [], none)
  | case :: rest =>
    if case.selectedBy filter then do
      let (case, outcome) ← case.run impl noop
      match outcome with
      | .error e => pure (case :: rest, [], some (case.name, e))
      | .ok reports => do
        let (rest, more, stop) ← runCases impl filter noop rest
        pure (case :: rest, reports ++ more, stop)
    else do
      let (rest, more, stop) ← runCases impl filter noop rest
      pure (case :: rest, more, stop)

/-- Runs the selected cases and keeps their reports. A filter that selects none
is warned about. -/
def run (impl : Backend σ β α) (suite : Suite β α) : Action σ (Suite β α) := do
  let (cases, reports, stop) ← runCases impl suite.filter suite.noop suite.cases
  let suite := { suite with cases, reports := suite.reports ++ reports }
  match stop with
  | some (name, e) => pure { suite with state := .fatalError name e }
  | none => do
    match suite.filter with
    | some name =>
      if suite.selectedNames = [] then log .warn ("no test case named " ++ name)
    | none => pure ()
    pure { suite with state := .finished }

/-- The line that tells a report. -/
def resultLine (report : CaseReport) : String :=
  let head := report.name ++ " [" ++ report.api.name ++ "]: " ++ report.result.name
  let summary := match report.statistics.summary with
    | some summary => " " ++ summary.text
    | none => ""
  let tag := match report.statistics.tag with
    | some tag => tag.text
    | none => ""
  head ++ summary ++ " " ++ tag

/-- Logs a line for each of some reports. -/
def logReports : List CaseReport → Action σ Unit
  | [] => pure ()
  | report :: rest => do
    log .info (resultLine report)
    logReports rest

/-- Logs a line for every report. -/
def logResults (suite : Suite β α) : Action σ Unit := logReports suite.reports

end Suite

end CopyBench
