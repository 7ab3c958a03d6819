import CopyBench.Buffer.Contents
import CopyBench.Proofs.Action
import CopyBench.Proofs.Text.Ascii
/-!
# Contents by name

A name is compared with the names of contents letter by letter, and the case of `A` to `Z` does not count.
What a name means depends on this comparison alone; a name that is none of them means zeros, and is told of.
-/

namespace CopyBench

/-! ## Names of contents -/

namespace Contents

open Text (Spells)

variable {name word : String} {words : List String} {seed : UInt64}

/-- The names of the increasing pattern. -/
def increasingNames : List String := ["increasing", "increasingbytes", "increasing-bytes"]

/-- The names of all contents. -/
def names : List String := ["zeros", "zero"] ++ increasingNames ++ ["random"]

/-- What contents a name means beside a seed. The seed counts for random contents only, and a name that
means no other contents means zeros. -/
structure Meant (name : String) (seed : UInt64) (contents : Contents) : Prop where
  random : contents = .random seed ↔ Spells name "random"
  increasing : contents = .increasing ↔ ∃ word ∈ increasingNames, Spells name word
  zeros : contents = .zeros ↔ ¬Spells name "random" ∧ ¬∃ word ∈ increasingNames, Spells name word

theorem spells_iff (known : word ∈ names) : Spells name word ↔ Text.lowerCase name = word := by
  have small : ∀ word ∈ names, word.toList.map Char.toLower = word.toList := by decide
  have same : Text.lowerCase word = word := by
    rw [Text.lowerCase, ← String.toList_inj, String.toList_map, small word known]
  rw [← Text.lowerCase_eq_lowerCase_iff, same]

theorem exists_spells_iff (known : words ⊆ names) :
    (∃ word ∈ words, Spells name word) ↔ Text.lowerCase name ∈ words := by
  constructor
  · rintro ⟨word, mem, spells⟩
    rwa [(spells_iff (known mem)).1 spells]
  · exact fun mem => ⟨_, mem, (spells_iff (known mem)).2 rfl⟩

theorem meant_iff {contents : Contents} : Meant name seed contents ↔
    (contents = .random seed ↔ Text.lowerCase name = "random") ∧
      (contents = .increasing ↔ Text.lowerCase name ∈ increasingNames) ∧
        (contents = .zeros ↔ Text.lowerCase name ≠ "random" ∧ Text.lowerCase name ∉ increasingNames) := by
  have random : Spells name "random" ↔ Text.lowerCase name = "random" := spells_iff (by decide)
  have increasing : (∃ word ∈ increasingNames, Spells name word) ↔ Text.lowerCase name ∈ increasingNames :=
    exists_spells_iff (by decide)
  rw [← random, ← increasing, Ne, ← random]
  exact ⟨fun meant => ⟨meant.random, meant.increasing, meant.zeros⟩, fun ⟨h, h', h''⟩ => ⟨h, h', h''⟩⟩

/-- A name is one of contents, and means them, or is none and would mean zeros. -/
theorem named?_cases (name : String) (seed : UInt64) :
    (∃ contents, named? name seed = some contents ∧ Meant name seed contents ∧ ∃ word ∈ names, Spells name word) ∨
      named? name seed = none ∧ Meant name seed .zeros ∧ ¬∃ word ∈ names, Spells name word := by
  simp only [meant_iff, exists_spells_iff (List.Subset.refl names), named?]
  generalize Text.lowerCase name = lower
  split
  case h_7 => exact .inr ⟨rfl, by grind [increasingNames], by grind [names, increasingNames]⟩
  all_goals exact .inl ⟨_, rfl, by simp [increasingNames], by decide⟩

/-! ## Contents of a name -/

section Parse

open CopyBench.Action

variable {σ : Type} [Console σ]

/-- What is told about a name: nothing where it is one of contents, and otherwise that it is not known. -/
def Told (name : String) (before after : σ) : Prop :=
  (∃ word ∈ names, Spells name word) ∧ after = before ∨
    (¬∃ word ∈ names, Spells name word) ∧ after = Console.tell (.logged .warn
      ("unknown buffer contents " ++ Text.quoted (Text.lowerCase name) ++ ", using zeros")) before

theorem ends_parse (name : String) (seed : UInt64) (s : σ) : (parse name seed).Ends s fun r after =>
    (∃ contents, r = .ok contents ∧ Meant name seed contents) ∧ Told name s after := by
  rw [parse]
  obtain ⟨contents, named, meant, known⟩ | ⟨named, meant, unknown⟩ := named?_cases name seed
  · rw [named]
    exact ⟨⟨contents, rfl, meant⟩, .inl ⟨known, rfl⟩⟩
  · rw [named]
    exact ⟨⟨zeros, rfl, meant⟩, .inr ⟨unknown, rfl⟩⟩

end Parse

end Contents

end CopyBench
