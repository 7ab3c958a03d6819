import CopyBench.Bootstrap.Configuration
import CopyBench.CommandLine.Number
import CopyBench.Suite.CopyBuffer
/-!
# Options

What the command line can say: flags, which are given or not, and settings,
which have a value. `Options` is everything that was said, defaults included.
-/

namespace CopyBench.CommandLine

/-- Everything the command line says. -/
structure Options where
  info : Bool := false
  list : Bool := false
  test : Option String := none
  noop : Bool := false
  deviceIndex : UInt32 := 0
  validation : Bool := false
  debugLayer : Bool := false
  engine : Engine := .unknown
  forceBlitter : Bool := false
  size : UInt64 := 268435456
  iterations : UInt32 := 10
  contents : String := "zeros"
  seed : UInt64 := Contents.defaultSeed
  useEvents : Bool := false
  allowCreationFail : Bool := false
  logConfig : String := "log4rs.yml"
deriving DecidableEq, Repr

namespace Options

/-- The configuration that the options ask for. -/
def configuration (o : Options) : Configuration :=
  let config := ({ engine := o.engine } : Configuration).forcingBlitter o.forceBlitter
  let config := { config with
    validation := o.validation
    debugLayer := o.debugLayer
    deviceIndex := o.deviceIndex }
  if o.allowCreationFail then config.allowingFailure else config

/-- The arguments of the copy benchmark. A name of no contents is warned about. -/
def copyArguments {σ : Type} [Console σ] (o : Options) : Action σ CopyArguments := do
  let contents ← Contents.parse o.contents o.seed
  pure { size := o.size, iterations := o.iterations.toNat, contents, useEvents := o.useEvents }

end Options

/-- An option that is given or not. -/
inductive Flag where
  | info
  | list
  | noop
  | validation
  | debugLayer
  | forceBlitter
  | useEvents
  | allowCreationFail
deriving DecidableEq, Repr

/-- An option with a value. -/
inductive Setting where
  | test
  | deviceIndex
  | engine
  | size
  | iterations
  | contents
  | seed
  | logConfig
deriving DecidableEq, Repr

namespace Flag

/-- The name of a flag, without its dashes. -/
def name : Flag → String
  | info => "info"
  | list => "list"
  | noop => "noop"
  | validation => "validation"
  | debugLayer => "debug-layer"
  | forceBlitter => "force-blitter"
  | useEvents => "use-events"
  | allowCreationFail => "allow-creation-fail"

/-- All flags. -/
def all : List Flag :=
  [info, list, noop, validation, debugLayer, forceBlitter, useEvents, allowCreationFail]

/-- The options with a flag given. -/
def set (o : Options) : Flag → Options
  | info => { o with info := true }
  | list => { o with list := true }
  | noop => { o with noop := true }
  | validation => { o with validation := true }
  | debugLayer => { o with debugLayer := true }
  | forceBlitter => { o with forceBlitter := true }
  | useEvents => { o with useEvents := true }
  | allowCreationFail => { o with allowCreationFail := true }

end Flag

/-- Why a text is no value of a setting. -/
inductive ValueFault where
  /-- The text is not one of the possible values. -/
  | notAllowed
  /-- The text does not write a number in range. -/
  | malformed
deriving DecidableEq, Repr

namespace Setting

/-- The name of a setting, without its dashes. -/
def name : Setting → String
  | test => "test"
  | deviceIndex => "vk-physical-device-index"
  | engine => "engine"
  | size => "size"
  | iterations => "iterations"
  | contents => "contents"
  | seed => "seed"
  | logConfig => "log-config"

/-- What the value of a setting is called. -/
def valueName : Setting → String
  | test => "TEST"
  | deviceIndex => "PHYSICAL_DEVICE_INDEX"
  | engine => "ENGINE"
  | size => "SIZE"
  | iterations => "ITERATIONS"
  | contents => "CONTENTS"
  | seed => "SEED"
  | logConfig => "LOG_CONFIG"

/-- All settings. -/
def all : List Setting := [test, deviceIndex, engine, size, iterations, contents, seed, logConfig]

/-- The value of a text that has to be one, or the fault of the text. -/
def required {α : Type} (fault : ValueFault) : Option α → Except ValueFault α
  | some a => .ok a
  | none => .error fault

/-- The options with a setting at the value that a text writes. -/
def set (o : Options) : Setting → String → Except ValueFault Options
  | test, text => .ok { o with test := some text }
  | deviceIndex, text =>
    (required .malformed (word32? text)).map fun n => { o with deviceIndex := n }
  | engine, text =>
    (required .notAllowed (Engine.ofWord? text)).map fun engine => { o with engine }
  | size, text => (required .malformed (word64? 1 text)).map fun n => { o with size := n }
  | iterations, text =>
    (required .malformed (word32? text)).map fun n => { o with iterations := n }
  | contents, text => .ok { o with contents := text }
  | seed, text => (required .malformed (word64? 0 text)).map fun n => { o with seed := n }
  | logConfig, text =>
    if text = "" then .error .notAllowed else .ok { o with logConfig := text }

end Setting

/-- Anything that can be named on the command line. -/
inductive Named where
  | flag (flag : Flag)
  | setting (setting : Setting)
  | help
  | version
deriving DecidableEq, Repr

namespace Named

/-- The name of an option, without its dashes. -/
def name : Named → String
  | flag f => f.name
  | setting s => s.name
  | help => "help"
  | version => "version"

/-- All options. -/
def all : List Named :=
  Flag.all.map flag ++ Setting.all.map setting ++ [help, version]

/-- The option with a name. -/
def find? (name : String) : Option Named := all.find? (·.name = name)

/-- How complaints speak of an option. -/
def display : Named → String
  | setting s => "--" ++ s.name ++ " <" ++ s.valueName ++ ">"
  | other => "--" ++ other.name

end Named

end CopyBench.CommandLine
