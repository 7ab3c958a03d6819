/-!
# Numbers in arguments

A number is a run of decimal digits after an optional sign, and must lie in the
range of its kind.
-/

namespace CopyBench.CommandLine

/-- The value of a decimal digit. -/
def digitValue? (c : Char) : Option Nat :=
  if '0' ≤ c ∧ c ≤ '9' then some (c.toNat - '0'.toNat) else none

/-- The value of digits after digits of value `high`. -/
def digitsFrom (high : Nat) : List Char → Option Nat
  | [] => some high
  | c :: rest =>
    match digitValue? c with
    | some d => digitsFrom (10 * high + d) rest
    | none => none

/-- The value of digits, of which there must be one at least. -/
def digits? : List Char → Option Nat
  | [] => none
  | c :: rest => digitsFrom 0 (c :: rest)

/-- The number that a text writes, with a plus sign or without one. -/
def natural? (text : String) : Option Nat :=
  match text.toList with
  | '+' :: rest => digits? rest
  | chars => digits? chars

/-- The number that a text writes, with a sign or without one. -/
def integer? (text : String) : Option Int :=
  match text.toList with
  | '-' :: rest => (digits? rest).map fun n => -(n : Int)
  | '+' :: rest => (digits? rest).map fun n => (n : Int)
  | chars => (digits? chars).map fun n => (n : Int)

/-- A text as a number of 32 bits. -/
def word32? (text : String) : Option UInt32 :=
  match integer? text with
  | some n => if 0 ≤ n ∧ n < UInt32.size then some n.toNat.toUInt32 else none
  | none => none

/-- A text as a number of 64 bits that is at least `least`. -/
def word64? (least : Nat) (text : String) : Option UInt64 :=
  match natural? text with
  | some n => if least ≤ n ∧ n < UInt64.size then some n.toUInt64 else none
  | none => none

end CopyBench.CommandLine
