import CopyBench.ResultCode
import CopyBench.Machine.Entrypoint
/-!
# Schedules of failures

A schedule says which calls fail, and with which code: for every entrypoint and
every number of a call of that entrypoint, counted from one, a code or none.
-/

namespace CopyBench

/-- The code with which the `n`-th call of an entrypoint fails, if it does. -/
abbrev Schedule := Entrypoint → Nat → Option ResultCode

/-- Calls of one entrypoint that fail alike: number `first` and those after it,
`count` of them, or all when `count` is zero. -/
structure FaultRule where
  point : Entrypoint
  first : Nat := 1
  count : Nat := 1
  code : ResultCode := .deviceLost

namespace FaultRule

/-- Whether a rule speaks of the `n`-th call of `point`. -/
def covers (rule : FaultRule) (point : Entrypoint) (n : Nat) : Bool :=
  rule.point = point ∧ rule.first ≤ n ∧ (rule.count = 0 ∨ n < rule.first + rule.count)

end FaultRule

namespace Schedule

/-- No call fails. -/
def reliable : Schedule := fun _ _ => none

/-- The schedule of a list of rules, of which the first that covers a call wins. -/
def ofRules (rules : List FaultRule) : Schedule := fun point n =>
  (rules.find? (·.covers point n)).map (·.code)

/-- Adds a rule that is asked last. -/
def withRule (schedule : Schedule) (rule : FaultRule) : Schedule := fun point n =>
  schedule point n <|> if rule.covers point n then some rule.code else none

/-- Every call of the entrypoints in `failures` fails. -/
def always (failures : List (Entrypoint × ResultCode)) : Schedule := fun point _ =>
  failures.lookup point

/-- What the first schedule says, else what the second says. -/
def orElse (schedule other : Schedule) : Schedule := fun point n =>
  schedule point n <|> other point n

end Schedule

end CopyBench
