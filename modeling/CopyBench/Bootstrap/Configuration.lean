/-!
# Queue configurations

How a device context is to be brought up. Options are chained on a
configuration and do not touch the one they started from.
-/

namespace CopyBench

/-- The hardware engine that a queue should run on. -/
inductive Engine where
  /-- No engine in particular: the first family that draws. -/
  | unknown
  /-- The render engine. -/
  | rcs
  /-- The compute engine. -/
  | ccs
  /-- The copy engine. -/
  | bcs
deriving DecidableEq, Repr

/-- The word for an engine. -/
def Engine.name : Engine → String
  | unknown => "Unknown"
  | rcs => "Rcs"
  | ccs => "Ccs"
  | bcs => "Bcs"

/-- The engine that a lower-case word asks for. -/
def Engine.ofWord? : String → Option Engine
  | "unknown" => some unknown
  | "rcs" => some rcs
  | "ccs" => some ccs
  | "bcs" => some bcs
  | _ => none

/-- How a device context is to be brought up. -/
structure Configuration where
  createsQueue : Bool := true
  /-- Whether a context that cannot be created is an error. -/
  requiresCreation : Bool := true
  profiling : Bool := false
  validation : Bool := false
  debugLayer : Bool := false
  engine : Engine := .unknown
  deviceIndex : UInt32 := 0
deriving DecidableEq, Repr

namespace Configuration

/-- No queue and no pool: only the instance and the physical device. -/
def disabled (c : Configuration) : Configuration := { c with createsQueue := false }

/-- A context that cannot be created means only that the device is not capable. -/
def allowingFailure (c : Configuration) : Configuration := { c with requiresCreation := false }

/-- Asks for the copy engine when `enabled`, and changes nothing otherwise. -/
def forcingBlitter (c : Configuration) (enabled : Bool) : Configuration :=
  if enabled then { c with engine := .bcs } else c

/-- Debug utilities are wanted for validation as well as for debug messages. -/
def wantsDebugUtils (c : Configuration) : Bool := c.validation || c.debugLayer

end Configuration

/-- One option that is chained on a configuration. -/
inductive ConfigurationStep where
  | allowFailure
  | disable
  | forceBlitter (enabled : Bool)
  | profiling (enabled : Bool)
  | validation (enabled : Bool)
  | debugLayer (enabled : Bool)
  | engine (engine : Engine)
  | deviceIndex (index : UInt32)
deriving DecidableEq, Repr

namespace Configuration

/-- The configuration with one more option. -/
def apply (c : Configuration) : ConfigurationStep → Configuration
  | .allowFailure => c.allowingFailure
  | .disable => c.disabled
  | .forceBlitter enabled => c.forcingBlitter enabled
  | .profiling enabled => { c with profiling := enabled }
  | .validation enabled => { c with validation := enabled }
  | .debugLayer enabled => { c with debugLayer := enabled }
  | .engine engine => { c with engine }
  | .deviceIndex index => { c with deviceIndex := index }

/-- The default configuration with some options. -/
def ofSteps (steps : List ConfigurationStep) : Configuration := steps.foldl apply {}

end Configuration

end CopyBench
