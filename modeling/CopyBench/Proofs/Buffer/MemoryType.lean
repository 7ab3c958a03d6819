import CopyBench.Buffer.MemoryType
import Mathlib.Order.Bounds.Basic
/-!
# The first suitable memory type

The search gives the least index of the table whose bit is set in the filter and whose properties include
all that are required, and it gives none exactly when there is no such index.
-/

namespace CopyBench.MemoryType

/-- Index `index` of the table will do: its bit is set in the filter, and its properties include all that are
required. -/
def Suitable (types : List UInt32) (filter required : UInt32) (index : Nat) : Prop :=
  ∃ flags, types[index]? = some flags ∧ filter.toNat.testBit index = true ∧ flags &&& required = required

variable {types : List UInt32} {filter required : UInt32} {first index : Nat}

theorem suits_iff {flags : UInt32} :
    suits filter required index flags = true ↔ filter.toNat.testBit index = true ∧ flags &&& required = required := by
  simp [suits, allowed, Flags.includes]

/-- A search that finds something has passed over what will not do, and one that finds nothing over all. -/
theorem findFrom_passes (filter required : UInt32) (types : List UInt32) (first : Nat) :
    match findFrom filter required first types with
    | some found => ∃ offset flags, found = first + offset ∧ types[offset]? = some flags ∧
        suits filter required found flags = true ∧
        ∀ earlier < offset, ∀ flags, types[earlier]? = some flags →
          suits filter required (first + earlier) flags = false
    | none => ∀ offset flags, types[offset]? = some flags → suits filter required (first + offset) flags = false := by
  induction types generalizing first with
  | nil => exact nofun
  | cons flags types ih =>
    rw [findFrom]
    by_cases suitable : suits filter required first flags = true
    · rw [if_pos suitable]
      exact ⟨0, flags, rfl, rfl, suitable, nofun⟩
    · rw [if_neg suitable]
      -- What stands first is passed over, and the rest is searched with its indices one higher.
      have passed (later : Nat) (h : ∀ offset < later, ∀ flags, types[offset]? = some flags →
          suits filter required (first + 1 + offset) flags = false) (offset : Nat) (before : offset < later + 1)
          (other : UInt32) (at_offset : (flags :: types)[offset]? = some other) :
          suits filter required (first + offset) other = false := by
        cases offset with
        | zero =>
          cases at_offset
          exact Bool.eq_false_iff.2 suitable
        | succ offset =>
          rw [Nat.add_comm offset 1, ← Nat.add_assoc]
          exact h offset (Nat.lt_of_succ_lt_succ before) other at_offset
      have rest := ih (first + 1)
      split at rest
      · obtain ⟨offset, flags', found, at_offset, suitable, skipped⟩ := rest
        exact ⟨offset + 1, flags', by omega, at_offset, suitable, passed offset skipped⟩
      · exact fun offset other => passed offset (fun offset _ => rest offset) offset (Nat.lt_succ_self _) other

theorem isLeast_of_find?_eq_some (found : find? types filter required = some index) :
    IsLeast {i | Suitable types filter required i} index := by
  have search := findFrom_passes filter required types 0
  rw [find?] at found
  rw [found] at search
  obtain ⟨offset, flags, rfl, at_offset, suitable, skipped⟩ := search
  rw [Nat.zero_add] at suitable ⊢
  refine ⟨⟨flags, at_offset, suits_iff.1 suitable⟩, fun other ⟨flags', at_other, h⟩ => ?_⟩
  refine Nat.le_of_not_lt fun earlier => Bool.eq_false_iff.1 (skipped other earlier flags' at_other) ?_
  exact suits_iff.2 ((Nat.zero_add other).symm ▸ h)

theorem find?_eq_none_iff :
    find? types filter required = none ↔ ∀ index, ¬Suitable types filter required index := by
  constructor
  · rintro failed index ⟨flags, at_index, h⟩
    have search := findFrom_passes filter required types 0
    rw [find?] at failed
    rw [failed] at search
    refine Bool.eq_false_iff.1 (search index flags at_index) ?_
    exact suits_iff.2 ((Nat.zero_add index).symm ▸ h)
  · intro none
    refine Option.eq_none_iff_forall_ne_some.2 fun index found => ?_
    exact none index (isLeast_of_find?_eq_some found).1

theorem find?_eq_some_iff :
    find? types filter required = some index ↔ IsLeast {i | Suitable types filter required i} index := by
  refine ⟨isLeast_of_find?_eq_some, fun least => ?_⟩
  cases found : find? types filter required with
  | none => exact absurd least.1 (find?_eq_none_iff.1 found index)
  | some other => rw [(isLeast_of_find?_eq_some found).unique least]

end CopyBench.MemoryType
