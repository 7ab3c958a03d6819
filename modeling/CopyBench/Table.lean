/-!
# Tables

A finite map from keys to values that holds each key at most once. What was
inserted last under a key is what `get?` finds there.
-/

namespace CopyBench

/-- Entries under distinct keys. -/
structure Table (κ α : Type) where
  entries : List (κ × α) := []
  distinct : (entries.map (·.1)).Nodup := by simp

namespace Table

variable {κ α : Type} [DecidableEq κ]

instance : Inhabited (Table κ α) := ⟨{}⟩

/-- The value under a key. -/
def get? (t : Table κ α) (k : κ) : Option α :=
  (t.entries.find? fun entry => entry.1 = k).map (·.2)

/-- The table without a key. -/
def erase (t : Table κ α) (k : κ) : Table κ α :=
  ⟨t.entries.filter fun entry => entry.1 ≠ k, t.distinct.sublist (List.filter_sublist.map _)⟩

theorem not_mem_keys_erase (t : Table κ α) (k : κ) : k ∉ (t.erase k).entries.map (·.1) := by
  simp [erase]

/-- The table with `a` under `k`, in place of what was there. -/
def insert (t : Table κ α) (k : κ) (a : α) : Table κ α :=
  ⟨(k, a) :: (t.erase k).entries,
    List.nodup_cons.mpr ⟨t.not_mem_keys_erase k, (t.erase k).distinct⟩⟩

/-- Whether a key is held. -/
def contains (t : Table κ α) (k : κ) : Bool := (t.get? k).isSome

/-- The number of keys held. -/
def size (t : Table κ α) : Nat := t.entries.length

/-- The keys held, the last inserted first. -/
def keys (t : Table κ α) : List κ := t.entries.map (·.1)

@[simp] theorem get?_empty (k : κ) : ({} : Table κ α).get? k = none := rfl

@[simp] theorem get?_erase_self (t : Table κ α) (k : κ) : (t.erase k).get? k = none := by
  simp only [get?, erase, Option.map_eq_none_iff, List.find?_eq_none, List.mem_filter]
  rintro ⟨k', a⟩ ⟨_, h⟩
  simpa using h

theorem get?_erase_of_ne (t : Table κ α) {k k' : κ} (h : k' ≠ k) :
    (t.erase k).get? k' = t.get? k' := by
  simp only [get?, erase, List.find?_filter]
  congr 2
  funext entry
  by_cases he : entry.1 = k' <;> simp_all

/-- What is left was there before. -/
theorem get?_of_get?_erase {t : Table κ α} {k k' : κ} {a : α} (h : (t.erase k).get? k' = some a) :
    t.get? k' = some a := by
  by_cases heq : k' = k
  · rw [heq, get?_erase_self] at h
    cases h
  · rwa [get?_erase_of_ne t heq] at h

@[simp] theorem get?_insert_self (t : Table κ α) (k : κ) (a : α) :
    (t.insert k a).get? k = some a := by
  simp [get?, insert]

theorem get?_insert_of_ne (t : Table κ α) {k k' : κ} (a : α) (h : k' ≠ k) :
    (t.insert k a).get? k' = t.get? k' := by
  rw [← get?_erase_of_ne t h]
  simp [get?, insert, Ne.symm h]

end Table

end CopyBench
