import CopyBench.Bootstrap.Context
import CopyBench.Suite.Basic
import CopyBench.Suite.CopyBuffer
/-!
# The copy benchmark as a backend

Setup brings up a context of its own for the case's arguments, a run measures
copies on it, and teardown waits for its queue and takes it down.
-/

namespace CopyBench

/-- A backend for the copy benchmark on a platform. -/
structure CopyBackend where
  platform : Platform
  /-- The configuration that every setup starts from. -/
  template : Configuration := {}
  timing : CopyBuffer.Timing := fun _ => .zero
  /-- The context that is up. -/
  context : Option Context := none

namespace CopyBackend

variable {α : Type}

/-- The context of a backend. -/
def currentContext : Action (Machine × CopyBackend) (Option Context) := fun s =>
  .ok s.2.context s

/-- Puts another context, or none, into a backend. -/
def setContext (context : Option Context) : Action (Machine × CopyBackend) Unit :=
  modify fun (machine, backend) => (machine, { backend with context })

/-- Takes the context down, if one is up. -/
def releaseContext : Option Context → Action (Machine × CopyBackend) Unit
  | none => pure ()
  | some context => Action.onFirst context.release

/-- Brings up a context, in place of one that was up before. A context that
cannot be created is an error only where the template says so. -/
def setup (arguments : CopyArguments) : Action (Machine × CopyBackend) Bool := do
  let (_, backend) ← get
  let config := { backend.template with profiling := arguments.useEvents }
  match ← Action.recover (Action.onFirst (Context.create backend.platform config)) with
  | .ok context => do
    let before ← currentContext
    setContext (some context)
    releaseContext before
    pure true
  | .error e =>
    if config.requiresCreation then Action.fail e
    else do
      log .warn (CopyBuffer.name ++ ": device context unavailable: " ++ e.message)
      pure false

/-- Runs an action in a session with a pool. Gives how it ended and the pool as
it is afterwards. -/
def withPool (pool : CommandPool) (act : Action (Session × Statistics) α) :
    Action ((Machine × CopyBackend) × Statistics) (Except Failure α × CommandPool) :=
  fun ((machine, backend), statistics) =>
    match act ({ machine, pool }, statistics) with
    | .ok a (session, statistics) =>
      .ok (.ok a, session.pool) ((session.machine, backend), statistics)
    | .error f (session, statistics) =>
      .ok (.error f, session.pool) ((session.machine, backend), statistics)

/-- Measures copies on the context that is up. -/
def run (arguments : CopyArguments) : Action ((Machine × CopyBackend) × Statistics) Unit := do
  let ((_, backend), _) ← get
  match backend.context with
  | none => Action.fail (.configuration .runWithoutSetup)
  | some context =>
    match context.pool with
    | none => Action.fail (.configuration .noQueue)
    | some pool => do
      let (result, pool) ← withPool pool (CopyBuffer.measure arguments backend.timing)
      Action.onFirst (setContext (some { context with pool := some pool }))
      Action.conclude result

/-- Waits for everything on a pool. -/
def drainPool (pool : CommandPool) : Action Machine (Except Error Unit × CommandPool) := fun machine =>
  match Action.recover (Session.flushAll true) { machine, pool } with
  | .ok result session => .ok (result, session.pool) session.machine
  | .error f session => .error f session.machine

/-- Waits for the queue of the context that is up, and takes it down. That the
queue cannot be waited for is logged only. -/
def takeDown : Action (Machine × CopyBackend) Unit := do
  match ← currentContext with
  | none => pure ()
  | some context => do
    let context ← match context.pool with
      | none => pure context
      | some pool => do
        let (result, pool) ← Action.onFirst (drainPool pool)
        match result with
        | .ok () => pure ()
        | .error e =>
          log .error (CopyBuffer.name ++ ": failed to drain the queue before teardown: " ++ e.message)
        pure { context with pool := some pool }
    setContext none
    releaseContext (some context)

/-- How the copy benchmark is run. -/
def backend : Backend Machine CopyBackend CopyArguments where
  api _ := .vulkan
  tag arguments s := (arguments.tag, s)
  setup := setup
  run := run
  teardown := takeDown.finalState

/-- The copy benchmark as a test case on a platform. -/
def testCase (platform : Platform) (template : Configuration) (arguments : CopyArguments)
    (timing : CopyBuffer.Timing) : Action Machine (TestCase CopyBackend CopyArguments) :=
  TestCase.withBackend backend { name := CopyBuffer.name, arguments }
    { platform, template, timing }

end CopyBackend

end CopyBench
