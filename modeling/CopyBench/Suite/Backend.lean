import CopyBench.Sample.Statistics
/-!
# Backends and trials

A backend runs a test case through one API. A trial of a backend is `execute`:
setup, run and teardown, in that order, as far as they are called for. Errors
that are not fatal are logged and become a result; fatal ones end the trial.
-/

namespace CopyBench

/-- An interface to devices. -/
inductive Api where
  | vulkan
deriving DecidableEq, Repr

/-- The name of an interface. -/
def Api.name : Api → String
  | vulkan => "Vulkan"

/-- How a trial came out. -/
inductive TestResult where
  | success
  | nooped
  | deviceNotCapable
  | error
deriving DecidableEq, Repr

/-- The word for a result. -/
def TestResult.name : TestResult → String
  | success => "Success"
  | nooped => "Nooped"
  | deviceNotCapable => "DeviceNotCapable"
  | error => "Error"

/-- How test cases with arguments in `α` are run by backends whose own state is
in `β`, in surroundings `σ`. -/
structure Backend (σ β α : Type) where
  api : β → Api
  /-- What the samples of a run will say. Asking cannot fail. -/
  tag : α → σ × β → Tag × (σ × β)
  /-- Prepares a run. The answer `false` says that the device cannot run the case,
  and that there is nothing to take down. -/
  setup : α → Action (σ × β) Bool
  run : α → Action ((σ × β) × Statistics) Unit
  /-- Takes down what a setup left behind. It cannot fail. -/
  teardown : σ × β → σ × β

namespace Backend

variable {σ β α : Type} [Console σ]

/-- Logs that a stage of a trial failed, and gives the result of that. -/
def reportFailure (impl : Backend σ β α) (stage : String) (e : Error) :
    Action ((σ × β) × Statistics) TestResult := do
  let ((_, backend), _) ← get
  log .error ((impl.api backend).name ++ " " ++ stage ++ " failed: " ++ e.message)
  pure .error

/-- Asks a backend what its samples will say, and readies the statistics for it. -/
def announce (impl : Backend σ β α) (arguments : α) :
    Action ((σ × β) × Statistics) Unit :=
  modify fun (s, statistics) =>
    let (tag, s) := impl.tag arguments s
    (s, statistics.retag tag)

/-- Takes a backend down. -/
def close (impl : Backend σ β α) : Action ((σ × β) × Statistics) Unit :=
  modify fun (s, statistics) => (impl.teardown s, statistics)

/-- A trial: asks for the tag, and unless it is a dry one sets up, runs and takes down. -/
def execute (impl : Backend σ β α) (arguments : α) (noop : Bool) :
    Action ((σ × β) × Statistics) TestResult := do
  impl.announce arguments
  if noop then pure .nooped
  else
    match ← Action.recover (Action.onFirst (impl.setup arguments)) with
    | .ok true => do
      let outcome ← Action.recover (impl.run arguments)
      impl.close
      match outcome with
      | .ok () => pure .success
      | .error e => if e.isFatal then Action.fail e else impl.reportFailure "run" e
    | .ok false => pure .deviceNotCapable
    | .error e =>
      if e.isFatal then Action.fail e
      else do
        let result ← impl.reportFailure "setup" e
        impl.close
        pure result

/-- Executes a backend with fresh statistics. Gives the backend as it is
afterwards, what was measured, and how it came out. -/
def trial (impl : Backend σ β α) (backend : β) (arguments : α) (noop : Bool) :
    Action σ (β × Statistics × Except Error TestResult) := fun env =>
  match impl.execute arguments noop ((env, backend), {}) with
  | .ok result ((env, backend), statistics) => .ok (backend, statistics, .ok result) env
  | .error (.error e) ((env, backend), statistics) => .ok (backend, statistics, .error e) env
  | .error (.panic cause) ((env, _), _) => .error (.panic cause) env

end Backend

end CopyBench
