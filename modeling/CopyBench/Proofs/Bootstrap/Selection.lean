import CopyBench.Bootstrap.QueueFamily
import CopyBench.Proofs.Action
import Mathlib.Data.Nat.Bitwise
import Mathlib.Order.Bounds.Basic
/-!
# The selected queue family

Of the families that an engine prefers the first is selected, and where there is none, the first that can
record copies. An engine prefers only families that can record copies, so whether anything is selected does
not depend on the engine.
-/

namespace CopyBench

/-! ## What flags say -/

namespace QueueFamily

/-- Families with these flags draw. -/
def Draws (flags : UInt32) : Prop := flags.toNat.testBit 0 = true

/-- Families with these flags compute. -/
def Computes (flags : UInt32) : Prop := flags.toNat.testBit 1 = true

/-- Families with these flags transfer. -/
def Transfers (flags : UInt32) : Prop := flags.toNat.testBit 2 = true

/-- Families with these flags can record copies. -/
def Copies (flags : UInt32) : Prop := Draws flags ∨ Computes flags ∨ Transfers flags

end QueueFamily

open QueueFamily in
/-- The families that an engine prefers, by their flags. -/
def Engine.Prefers : Engine → UInt32 → Prop
  | .bcs, flags => Transfers flags ∧ ¬Draws flags ∧ ¬Computes flags
  | .ccs, flags => Computes flags ∧ ¬Draws flags
  | .rcs, flags => Draws flags
  | .unknown, flags => Draws flags

namespace QueueFamily

open CopyBench.Action

variable {families more : List QueueFamily} {engine : Engine} {flags : UInt32}

/-- An engine prefers no family that cannot record copies. -/
theorem copies_of_prefers (prefers : engine.Prefers flags) : Copies flags := by
  cases engine with
  | bcs => exact .inr (.inr prefers.1)
  | ccs => exact .inr (.inl prefers.1)
  | rcs | unknown => exact .inl prefers

theorem meets_bit (k : Nat) {bit : UInt32} (is_bit : bit.toNat = 2 ^ k) :
    Flags.meets flags bit = true ↔ flags.toNat.testBit k = true := by
  rw [Flags.meets, bne_iff_ne, ne_eq, ← UInt32.toNat_inj, UInt32.toNat_and, is_bit, Nat.and_two_pow]
  cases flags.toNat.testBit k <;> simp

theorem includes_bit (k : Nat) {bit : UInt32} (is_bit : bit.toNat = 2 ^ k) :
    Flags.includes flags bit = true ↔ flags.toNat.testBit k = true := by
  have positive : 0 ≠ 2 ^ k := (Nat.two_pow_pos k).ne
  rw [Flags.includes, beq_iff_eq, ← UInt32.toNat_inj, UInt32.toNat_and, is_bit, Nat.and_two_pow]
  cases flags.toNat.testBit k <;> simp [positive]

/-- Some bit of two words is set, when some bit of one of them is. -/
theorem meets_or (a b : UInt32) :
    Flags.meets flags (a ||| b) = true ↔ Flags.meets flags a = true ∨ Flags.meets flags b = true := by
  have parts : flags &&& (a ||| b) = (flags &&& a) ||| (flags &&& b) := by
    rw [← UInt32.toNat_inj]
    simp only [UInt32.toNat_and, UInt32.toNat_or, Nat.and_or_distrib_left]
  simp only [Flags.meets, parts, bne_iff_ne, ne_eq, UInt32.or_eq_zero_iff, not_and_or]

theorem dedicatedTo_iff : dedicatedTo engine flags = true ↔ engine.Prefers flags := by
  have draws : Flags.includes flags graphics = true ↔ Draws flags := includes_bit 0 rfl
  have computes : Flags.includes flags compute = true ↔ Computes flags := includes_bit 1 rfl
  have transfers : Flags.includes flags transfer = true ↔ Transfers flags := includes_bit 2 rfl
  have busy : Flags.meets flags (graphics ||| compute) = true ↔ Draws flags ∨ Computes flags := by
    rw [meets_or, meets_bit 0 rfl, meets_bit 1 rfl]
    rfl
  cases engine with
  | bcs =>
    rw [dedicatedTo, Bool.and_eq_true, Bool.not_eq_true', ← Bool.not_eq_true, transfers, busy, not_or]
    rfl
  | ccs =>
    rw [dedicatedTo, Bool.and_eq_true, Bool.not_eq_true', ← Bool.not_eq_true, computes, draws]
    rfl
  | rcs | unknown => exact draws

theorem copyCapable_iff : copyCapable flags = true ↔ Copies flags := by
  rw [copyCapable, meets_or, meets_or, meets_bit 0 rfl, meets_bit 1 rfl, meets_bit 2 rfl, or_assoc]
  rfl

/-! ## The first family that will do -/

/-- Family `index` of the list has queues, and flags that satisfy `wanted`. -/
def Offers (families : List QueueFamily) (wanted : UInt32 → Prop) (index : Nat) : Prop :=
  ∃ family, families[index]? = some family ∧ 0 < family.count ∧ wanted family.flags

section Find

variable {wanted : UInt32 → Bool} {Wanted : UInt32 → Prop} {first : Nat} {selected : Selected}

theorem findFrom_eq_find? (wanted : UInt32 → Bool) (first : Nat) (families : List QueueFamily) :
    findFrom wanted first families =
      ((families.zipIdx first).find? fun entry => 0 < entry.1.count && wanted entry.1.flags).map
        fun entry => ⟨entry.2, entry.1.timestampBits⟩ := by
  induction families generalizing first with
  | nil => rfl
  | cons family families ih =>
    rw [findFrom, List.zipIdx_cons, List.find?_cons, ih]
    cases decide (0 < family.count) && wanted family.flags <;> rfl

/-- What is found in the front of a list is found in the whole. -/
theorem findFrom_append (found : findFrom wanted first families = some selected) (more : List QueueFamily) :
    findFrom wanted first (families ++ more) = some selected := by
  rw [findFrom_eq_find?] at found ⊢
  obtain ⟨entry, is_first, rfl⟩ := Option.map_eq_some_iff.1 found
  rw [List.zipIdx_append, List.find?_append, is_first]
  rfl

variable (meaning : ∀ flags, wanted flags = true ↔ Wanted flags)
include meaning

/-- What is found is the first family that will do, with its bits. -/
theorem find_isLeast (found : findFrom wanted 0 families = some selected) :
    IsLeast {i | Offers families Wanted i} selected.index ∧
      ∃ family, families[selected.index]? = some family ∧ selected.timestampBits = family.timestampBits := by
  rw [findFrom_eq_find?] at found
  obtain ⟨⟨family, index⟩, is_first, rfl⟩ := Option.map_eq_some_iff.1 found
  obtain ⟨fits, position, bound, at_position, earlier⟩ := List.find?_eq_some_iff_getElem.1 is_first
  rw [List.length_zipIdx] at bound
  obtain ⟨rfl, rfl⟩ : families[position] = family ∧ position = index := by simpa using at_position
  have here := List.getElem?_eq_getElem bound
  have suits : 0 < families[position].count ∧ Wanted families[position].flags := by
    simpa [meaning] using fits
  refine ⟨⟨⟨_, here, suits⟩, fun other ⟨family, at_other, suits⟩ => Nat.le_of_not_lt fun before => ?_⟩, _, here, rfl⟩
  -- A family before the one that was found was looked at first, and would have been found.
  obtain ⟨_, rfl⟩ := List.getElem?_eq_some_iff.1 at_other
  have skipped := earlier other before
  rw [List.getElem_zipIdx, Bool.not_eq_true', ← Bool.not_eq_true, Bool.and_eq_true, decide_eq_true_eq] at skipped
  exact skipped ⟨suits.1, (meaning _).2 suits.2⟩

theorem findFrom_eq_none_iff :
    findFrom wanted 0 families = none ↔ ∀ index, ¬Offers families Wanted index := by
  constructor
  · rintro nothing index ⟨family, at_index, some, suits⟩
    rw [findFrom_eq_find?, Option.map_eq_none_iff, List.find?_eq_none] at nothing
    refine nothing (family, index) (List.mem_zipIdx_iff_getElem?.2 at_index) ?_
    simp [some, (meaning _).2 suits]
  · intro nothing
    refine Option.eq_none_iff_forall_ne_some.2 fun selected found => ?_
    exact nothing _ (find_isLeast meaning found).1.1

end Find

/-! ## The selection -/

/-- Which family is selected for an engine. -/
structure Selects (families : List QueueFamily) (engine : Engine) : Prop where
  /-- Nothing is selected exactly when no family has queues and can record copies. -/
  nothing : select? families engine = none ↔ ∀ family ∈ families, 0 < family.count → ¬Copies family.flags
  preferred : ∀ selected, select? families engine = some selected → (∃ i, Offers families engine.Prefers i) →
    IsLeast {i | Offers families engine.Prefers i} selected.index
  otherwise : ∀ selected, select? families engine = some selected → (¬∃ i, Offers families engine.Prefers i) →
    IsLeast {i | Offers families Copies i} selected.index
  bits : ∀ selected, select? families engine = some selected →
    ∃ family, families[selected.index]? = some family ∧ selected.timestampBits = family.timestampBits
  /-- A family that the engine prefers stays selected, whatever families come after those of the list. -/
  settled : ∀ selected more, select? families engine = some selected →
    Offers families engine.Prefers selected.index → select? (families ++ more) engine = some selected
  /-- What is selected is handed on, and its absence is a misconfiguration. -/
  chosen : ∀ m, (choose families engine).Ends m fun r _ =>
    r = match select? families engine with
      | some selected => .ok selected
      | none => .error (.error (.configuration .noQueueFamily))

theorem preferred?_eq_none_iff : preferred? families engine = none ↔ ¬∃ i, Offers families engine.Prefers i :=
  (findFrom_eq_none_iff fun _ => dedicatedTo_iff).trans not_exists.symm

theorem select?_eq_none_iff :
    select? families engine = none ↔ ∀ family ∈ families, 0 < family.count → ¬Copies family.flags := by
  have fallback : fallback? families = none ↔ ∀ family ∈ families, 0 < family.count → ¬Copies family.flags := by
    rw [fallback?, findFrom_eq_none_iff fun _ => copyCapable_iff]
    constructor
    · intro nothing family mem some copies
      obtain ⟨index, at_index⟩ := List.mem_iff_getElem?.1 mem
      exact nothing index ⟨family, at_index, some, copies⟩
    · rintro nothing index ⟨family, at_index, some, copies⟩
      exact nothing family (List.mem_of_getElem? at_index) some copies
  rw [select?]
  cases found : preferred? families engine with
  | none => exact fallback
  | some selected =>
    -- The preferred family can record copies, so there is one that can.
    obtain ⟨⟨⟨family, at_index, some, prefers⟩, -⟩, -⟩ := find_isLeast (fun _ => dedicatedTo_iff) found
    refine iff_of_false nofun fun nothing => ?_
    exact nothing family (List.mem_of_getElem? at_index) some (copies_of_prefers prefers)

theorem ends_choose (families : List QueueFamily) (engine : Engine) (m : Machine) :
    (choose families engine).Ends m fun r _ =>
      r = match select? families engine with
        | some selected => .ok selected
        | none => .error (.error (.configuration .noQueueFamily)) := by
  unfold choose
  cases select? families engine <;> cases (preferred? families engine).isNone <;> exact rfl

/-- A family is selected because the engine prefers it, or for want of one that it prefers. -/
theorem select?_cases {selected : Selected} (found : select? families engine = some selected) :
    preferred? families engine = some selected ∨
      preferred? families engine = none ∧ fallback? families = some selected := by
  rw [select?] at found
  cases h : preferred? families engine with
  | some first =>
    rw [h] at found
    exact .inl found
  | none =>
    rw [h] at found
    exact .inr ⟨rfl, found⟩

/-- Whatever the families and the engine, the first family that the engine prefers is selected, or else the
first that can record copies. -/
theorem selects_first (families : List QueueFamily) (engine : Engine) : Selects families engine where
  nothing := select?_eq_none_iff
  preferred selected found := fun preferable => by
    obtain first | ⟨without, -⟩ := select?_cases found
    · exact (find_isLeast (fun _ => dedicatedTo_iff) first).1
    · exact absurd preferable (preferred?_eq_none_iff.1 without)
  otherwise selected found := fun without => by
    obtain first | ⟨-, first⟩ := select?_cases found
    · exact absurd (first.symm.trans (preferred?_eq_none_iff.2 without)) nofun
    · exact (find_isLeast (fun _ => copyCapable_iff) first).1
  bits selected found := by
    obtain first | ⟨-, first⟩ := select?_cases found
    · exact (find_isLeast (fun _ => dedicatedTo_iff) first).2
    · exact (find_isLeast (fun _ => copyCapable_iff) first).2
  settled selected more found := fun prefers => by
    obtain first | ⟨without, -⟩ := select?_cases found
    · rw [select?, preferred?, findFrom_append first]
    · exact absurd ⟨_, prefers⟩ (preferred?_eq_none_iff.1 without)
  chosen := ends_choose families engine

end QueueFamily

end CopyBench
