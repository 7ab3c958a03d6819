import CopyBench.Bootstrap.Configuration
import CopyBench.Bootstrap.Platform
/-!
# The choice of a queue family

Each engine prefers the families dedicated to it. Without one, any family that
can record copies will do. Families without queues are never chosen, and of
several the first is.
-/

namespace CopyBench.QueueFamily

/-- The bit of families that draw. -/
def graphics : UInt32 := 1

/-- The bit of families that compute. -/
def compute : UInt32 := 2

/-- The bit of families that transfer. -/
def transfer : UInt32 := 4

/-- Whether a family is dedicated to an engine. -/
def dedicatedTo : Engine → UInt32 → Bool
  | .bcs, flags => Flags.includes flags transfer && !Flags.meets flags (graphics ||| compute)
  | .ccs, flags => Flags.includes flags compute && !Flags.includes flags graphics
  | .rcs, flags => Flags.includes flags graphics
  | .unknown, flags => Flags.includes flags graphics

/-- Whether a family can record copies. -/
def copyCapable (flags : UInt32) : Bool := Flags.meets flags (graphics ||| compute ||| transfer)

/-- A family and its number. -/
structure Selected where
  index : Nat
  timestampBits : UInt32
deriving DecidableEq, Repr

/-- The first family with queues and flags that satisfy `wanted`, when the
first of the list has number `index`. -/
def findFrom (wanted : UInt32 → Bool) : Nat → List QueueFamily → Option Selected
  | _, [] => none
  | index, family :: rest =>
    if 0 < family.count && wanted family.flags then some ⟨index, family.timestampBits⟩
    else findFrom wanted (index + 1) rest

/-- The first family dedicated to an engine. -/
def preferred? (families : List QueueFamily) (engine : Engine) : Option Selected :=
  findFrom (dedicatedTo engine) 0 families

/-- The first family that can record copies. -/
def fallback? (families : List QueueFamily) : Option Selected := findFrom copyCapable 0 families

/-- The family for an engine: a dedicated one, else one that can record copies. -/
def select? (families : List QueueFamily) (engine : Engine) : Option Selected :=
  match preferred? families engine with
  | some selected => some selected
  | none => fallback? families

/-- Selects a family for an engine, with a warning if it is not a dedicated one. -/
def choose (families : List QueueFamily) (engine : Engine) : Action Machine Selected := do
  if (preferred? families engine).isNone then
    log .warn ("no dedicated queue family for " ++ engine.name ++ ", falling back")
  match select? families engine with
  | some selected => pure selected
  | none => Action.fail (.configuration .noQueueFamily)

end CopyBench.QueueFamily
