import CopyBench.CommandLine.Number
/-!
# Numbers are read as they are written

A number that is written in decimal digits is read as that number, whichever way of reading it is asked for,
and is turned down only where it lies outside the range of its kind.
-/

namespace CopyBench.CommandLine

theorem digitValue?_of_isDigit {c : Char} (digit : c.isDigit) : digitValue? c = some (c.toNat - '0'.toNat) := by
  rw [Char.isDigit, Bool.and_eq_true, decide_eq_true_eq, decide_eq_true_eq] at digit
  exact if_pos digit

theorem digitsFrom_eq_ofDigitChars {chars : List Char} (digits : ∀ c ∈ chars, c.isDigit) (high : Nat) :
    digitsFrom high chars = some (Nat.ofDigitChars 10 chars high) := by
  induction chars generalizing high with
  | nil => rw [digitsFrom, Nat.ofDigitChars_nil]
  | cons c rest ih =>
    rw [digitsFrom, digitValue?_of_isDigit (digits c List.mem_cons_self), Nat.ofDigitChars_cons]
    exact ih (fun d mem => digits d (List.mem_cons_of_mem c mem)) _

/-- A number is written with a digit first, and its digits are read as the number. -/
theorem exists_digits (n : Nat) : ∃ c rest, n.repr.toList = c :: rest ∧ c.isDigit ∧ digits? (c :: rest) = some n := by
  have digits : ∀ c ∈ Nat.toDigits 10 n, c.isDigit := fun c => Nat.isDigit_of_mem_toDigits (by decide) (by decide)
  have value := digitsFrom_eq_ofDigitChars digits 0
  rw [Nat.ofDigitChars_ten_toDigits] at value
  obtain ⟨c, rest, written⟩ := List.exists_cons_of_ne_nil (Nat.toDigits_ne_nil : Nat.toDigits 10 n ≠ [])
  rw [written] at digits value
  exact ⟨c, rest, Nat.toList_repr.trans written, digits c List.mem_cons_self, value⟩

theorem natural?_repr (n : Nat) : natural? n.repr = some n := by
  obtain ⟨c, rest, written, digit, value⟩ := exists_digits n
  rw [natural?, written]
  split
  · next plus =>
    obtain ⟨rfl, -⟩ := List.cons.inj plus
    exact absurd digit (by decide)
  · exact value

theorem integer?_repr (n : Nat) : integer? n.repr = some (n : Int) := by
  obtain ⟨c, rest, written, digit, value⟩ := exists_digits n
  rw [integer?, written]
  split
  · next minus =>
    obtain ⟨rfl, -⟩ := List.cons.inj minus
    exact absurd digit (by decide)
  · next plus =>
    obtain ⟨rfl, -⟩ := List.cons.inj plus
    exact absurd digit (by decide)
  · rw [value]
    rfl

/-! ## Numbers of a kind -/

theorem word32?_toString (n : UInt32) : word32? (toString n) = some n := by
  have inRange : (0 : Int) ≤ n.toNat ∧ (n.toNat : Int) < UInt32.size := ⟨by omega, Int.ofNat_lt.2 n.toNat_lt⟩
  rw [word32?, show toString n = n.toNat.repr from rfl, integer?_repr]
  dsimp only
  rw [if_pos inRange, Int.toNat_natCast, Nat.toUInt32_eq, UInt32.ofNat_toNat]

/-- A number of 64 bits is read where it is at least as great as it has to be, and turned down otherwise. -/
theorem word64?_toString (least : Nat) (n : UInt64) :
    word64? least (toString n) = if least ≤ n.toNat then some n else none := by
  rw [word64?, show toString n = n.toNat.repr from rfl, natural?_repr]
  dsimp only
  simp only [show n.toNat < UInt64.size from n.toNat_lt, and_true, Nat.toUInt64_eq, UInt64.ofNat_toNat]

end CopyBench.CommandLine
