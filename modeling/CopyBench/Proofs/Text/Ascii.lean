import CopyBench.Text.Ascii
import Mathlib.Data.List.Forall2
/-!
# Words up to the case of their letters

Two texts are the same up to case when they are so letter by letter, where only `A` to `Z` and `a` to `z` have
two cases. This is what lowering both says.
-/

namespace CopyBench.Text

variable {c d : Char} {name word : String}

/-- A letter from `A` to `Z`, and the same letter from `a` to `z`. -/
def Cased (capital small : Char) : Prop := ('A' ≤ capital ∧ capital ≤ 'Z') ∧ small.toNat = capital.toNat + 32

/-- One character, or one letter in its two cases. -/
def SameLetter (c d : Char) : Prop := c = d ∨ Cased c d ∨ Cased d c

/-- A text writes a word, whatever the case of its letters. -/
def Spells (name word : String) : Prop := List.Forall₂ SameLetter name.toList word.toList

theorem toLower_of_not_capital (other : ¬('A' ≤ c ∧ c ≤ 'Z')) : c.toLower = c := dif_neg other

theorem cased_toLower (capital : 'A' ≤ c ∧ c ≤ 'Z') : Cased c c.toLower := by
  have bound : c.toNat ≤ 90 := UInt32.le_iff_toNat_le.1 capital.2
  have shifted : c.toLower.val = c.val + 32 := congrArg Char.val (dif_pos capital)
  refine ⟨capital, ?_⟩
  rw [Char.toNat, shifted, UInt32.toNat_add]
  exact Nat.mod_eq_of_lt (Nat.lt_of_le_of_lt (Nat.add_le_add_right bound 32) (by decide))

theorem Cased.toLower_capital (cased : Cased c d) : c.toLower = d :=
  Char.toNat_inj.1 ((cased_toLower cased.1).2.trans cased.2.symm)

theorem Cased.toLower_small (cased : Cased c d) : d.toLower = d := by
  have first : 65 ≤ c.toNat := UInt32.le_iff_toNat_le.1 cased.1.1
  refine toLower_of_not_capital fun capital => ?_
  have last : d.toNat ≤ 90 := UInt32.le_iff_toNat_le.1 capital.2
  have apart := cased.2
  omega

theorem toLower_eq_toLower_iff : c.toLower = d.toLower ↔ SameLetter c d := by
  constructor
  · intro same
    by_cases capital : 'A' ≤ c ∧ c ≤ 'Z' <;> by_cases capital' : 'A' ≤ d ∧ d ≤ 'Z'
    · have apart := (cased_toLower capital).2.symm.trans ((congrArg Char.toNat same).trans (cased_toLower capital').2)
      exact .inl (Char.toNat_inj.1 (Nat.add_right_cancel apart))
    · rw [toLower_of_not_capital capital'] at same
      exact .inr (.inl (same ▸ cased_toLower capital))
    · rw [toLower_of_not_capital capital] at same
      exact .inr (.inr (same ▸ cased_toLower capital'))
    · rw [toLower_of_not_capital capital, toLower_of_not_capital capital'] at same
      exact .inl same
  · rintro (rfl | cased | cased)
    · rfl
    · rw [cased.toLower_capital, cased.toLower_small]
    · rw [cased.toLower_capital, cased.toLower_small]

theorem lowerCase_eq_lowerCase_iff : lowerCase name = lowerCase word ↔ Spells name word := by
  rw [lowerCase, lowerCase, ← String.toList_inj, String.toList_map, String.toList_map, Spells,
    ← List.forall₂_eq_eq_eq, List.forall₂_map_left_iff, List.forall₂_map_right_iff]
  simp only [toLower_eq_toLower_iff]

instance : Decidable (Spells name word) := decidable_of_iff _ lowerCase_eq_lowerCase_iff

theorem sameUpToCase_iff : sameUpToCase name word = true ↔ Spells name word := by
  rw [sameUpToCase, decide_eq_true_iff, lowerCase_eq_lowerCase_iff]

end CopyBench.Text
