import CopyBench.Table
import Mathlib.Data.List.Nodup
import Mathlib.Data.List.Perm.Basic
/-!
# Tables as sets of entries

A table holds each key once, so what it holds is a set of entries, and each operation puts an entry in
or takes one out.
-/

namespace CopyBench.Table

variable {κ α : Type} [DecidableEq κ] {t : Table κ α} {k : κ} {a : α}

/-- The entries of a table are what can be found in it. -/
theorem mem_entries : (k, a) ∈ t.entries ↔ t.get? k = some a := by
  obtain ⟨entries, distinct⟩ := t
  simp only [get?]
  induction entries with
  | nil => simp
  | cons entry entries ih =>
    obtain ⟨k', a'⟩ := entry
    obtain ⟨hnew, distinct⟩ := List.nodup_cons.1 distinct
    rw [List.find?_cons]
    by_cases heq : k' = k
    · subst heq
      have absent : (k', a) ∉ entries := fun hmem => hnew (List.mem_map.2 ⟨_, hmem, rfl⟩)
      simp [absent, eq_comm]
    · simp [heq, Ne.symm heq, ih distinct]

theorem mem_keys : k ∈ t.keys ↔ ∃ a, t.get? k = some a := by
  simp only [keys, List.mem_map, Prod.exists, mem_entries]
  constructor
  · rintro ⟨_, a, h, rfl⟩
    exact ⟨a, h⟩
  · rintro ⟨a, h⟩
    exact ⟨k, a, h, rfl⟩

theorem contains_of_mem_keys (h : k ∈ t.keys) : t.contains k = true := by
  obtain ⟨a, ha⟩ := mem_keys.1 h
  simp [contains, ha]

/-- What a key had comes out with it. -/
theorem entries_perm_erase (h : t.get? k = some a) : t.entries.Perm ((k, a) :: (t.erase k).entries) := by
  have distinct : t.entries.Nodup := List.Nodup.of_map _ t.distinct
  have distinct' : ((k, a) :: (t.erase k).entries).Nodup :=
    List.nodup_cons.2 ⟨fun hmem => t.not_mem_keys_erase k (List.mem_map.2 ⟨_, hmem, rfl⟩),
      List.Nodup.of_map _ (t.erase k).distinct⟩
  -- Neither side holds an entry twice, so it is enough that both hold the same entries.
  refine (List.perm_ext_iff_of_nodup distinct distinct').2 ?_
  rintro ⟨k', a'⟩
  rw [List.mem_cons, mem_entries, mem_entries]
  by_cases heq : k' = k
  · subst heq
    simp [h, eq_comm]
  · simp [heq, get?_erase_of_ne]

theorem keys_perm_erase (h : t.get? k = some a) : t.keys.Perm (k :: (t.erase k).keys) :=
  (entries_perm_erase h).map _

/-- A key that is not held takes nothing with it. -/
theorem erase_eq_self (h : t.get? k = none) : t.erase k = t := by
  obtain ⟨entries, distinct⟩ := t
  unfold erase
  congr
  refine List.filter_eq_self.2 ?_
  rintro ⟨k', a⟩ hmem
  have hget := mem_entries.1 hmem
  simp only [ne_eq, decide_eq_true_eq]
  rintro rfl
  rw [hget] at h
  cases h

theorem entries_insert (t : Table κ α) (k : κ) (a : α) :
    (t.insert k a).entries = (k, a) :: (t.erase k).entries := rfl

theorem keys_insert (t : Table κ α) (k : κ) (a : α) : (t.insert k a).keys = k :: (t.erase k).keys := rfl

/-- A new value under a key that is held changes no key. -/
theorem keys_insert_perm (a : α) (h : k ∈ t.keys) : (t.insert k a).keys.Perm t.keys := by
  obtain ⟨a', ha'⟩ := mem_keys.1 h
  exact (keys_perm_erase ha').symm

end CopyBench.Table
