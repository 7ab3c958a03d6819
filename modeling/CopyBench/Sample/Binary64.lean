/-!
# Binary64 numbers

A measured figure is a binary64 number, kept as its 64 bits, so that two figures
are the same exactly when their bits are. Arithmetic rounds to nearest, as the
standard for these numbers says. `rank` orders all of them, zeros of both signs
and numbers that are none included.
-/

namespace CopyBench

/-- A binary64 number, by its bits. -/
structure Binary64 where
  bits : UInt64
deriving DecidableEq, Repr, Inhabited

namespace Binary64

/-- The number in the form that arithmetic takes. -/
def toFloat (x : Binary64) : Float := Float.ofBits x.bits

/-- The number that arithmetic gave. -/
def ofFloat (x : Float) : Binary64 := ⟨x.toBits⟩

/-- The number nearest to a 64-bit integer. -/
def ofUInt64 (n : UInt64) : Binary64 := ofFloat n.toFloat

/-- The rounded sum. -/
def add (x y : Binary64) : Binary64 := ofFloat (x.toFloat + y.toFloat)

/-- The rounded quotient. -/
def div (x y : Binary64) : Binary64 := ofFloat (x.toFloat / y.toFloat)

/-- Whether a number is above zero. -/
def isPositive (x : Binary64) : Bool := 0.0 < x.toFloat

/-- Zero without a sign. -/
def zero : Binary64 := ⟨0⟩

/-- Zero with a sign, which changes no number that it is added to. -/
def negativeZero : Binary64 := ⟨0x8000000000000000⟩

/-- Two. -/
def two : Binary64 := ofFloat 2.0

/-- A thousand million. -/
def billion : Binary64 := ofFloat 1e9

/-- The place of a number in the order of all numbers: a number with the sign
bit comes before all without it, and the larger its other bits the earlier. -/
def rank (x : Binary64) : Int :=
  if x.bits.toNat < 0x8000000000000000 then x.bits.toNat else 0x7FFFFFFFFFFFFFFF - x.bits.toNat

/-- Whether `x` comes no later than `y`. -/
def le (x y : Binary64) : Bool := x.rank ≤ y.rank

theorem rank_injective {x y : Binary64} (h : x.rank = y.rank) : x = y := by
  have hx := x.bits.toNat_lt
  have hy := y.bits.toNat_lt
  have : x.bits.toNat = y.bits.toNat := by
    unfold rank at h
    split at h <;> split at h <;> omega
  cases x
  cases y
  simp_all [UInt64.toNat_inj]

end Binary64

end CopyBench
