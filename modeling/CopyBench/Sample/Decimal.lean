import CopyBench.Sample.Binary64
/-!
# Binary64 numbers with three decimals

The exact value of a binary64 number, rounded to thousandths; of two equally
near thousandths the even one is taken.
-/

namespace CopyBench.Decimal

/-- `n / d` rounded to the nearest integer, a half to the even neighbour. -/
def roundDiv (n d : Nat) : Nat :=
  let q := n / d
  let r := n % d
  if 2 * r < d then q
  else if d < 2 * r then q + 1
  else if q % 2 = 0 then q else q + 1

/-- The digits of a number of thousandths, with a point before the last three. -/
def thousandths (n : Nat) : String :=
  let fraction := toString (n % 1000)
  toString (n / 1000) ++ "." ++ String.ofList (List.replicate (3 - fraction.length) '0') ++ fraction

/-- The thousandths nearest to `mantissa * 2 ^ (exponent - 1075)`. -/
def nearest (mantissa exponent : Nat) : Nat :=
  if 1075 ≤ exponent then (mantissa * 1000) <<< (exponent - 1075)
  else roundDiv (mantissa * 1000) (1 <<< (1075 - exponent))

/-- A number with three decimals. -/
def text (x : Binary64) : String :=
  let bits := x.bits.toNat
  let sign := if 0x8000000000000000 ≤ bits then "-" else ""
  let exponent := (bits >>> 52) % 0x800
  let fraction := bits % 0x10000000000000
  if exponent = 2047 then (if fraction = 0 then sign ++ "inf" else "NaN")
  else if exponent = 0 then sign ++ thousandths (nearest fraction 1)
  else sign ++ thousandths (nearest (0x10000000000000 + fraction) exponent)

end CopyBench.Decimal
