import CopyBench.Machine.Calls
import CopyBench.Proofs.Action
/-!
# Executing copies

A copy can be executed when both its buffers are bound to live memory and both its ranges lie in
there (`CanCopy`). Executing one writes the destination's memory and counts the copy, and leaves the
size of every memory as it was, so copies that can be executed stay so while others are.
-/

namespace CopyBench.Machine

open CopyBench.Action

/-! ## One copy -/

/-- What a copy needs of a machine to be executed: its buffers are bound to memory, and its ranges
lie in that memory. -/
def CanCopy (m : Machine) (copy : RecordedCopy) : Prop :=
  ∃ sourceMemory targetMemory source target,
    m.bindings.get? copy.source = some sourceMemory ∧
      m.bindings.get? copy.destination = some targetMemory ∧
      m.memories.get? sourceMemory = some source ∧ m.memories.get? targetMemory = some target ∧
      Bytes.fits source.size copy.region.sourceOffset.toNat copy.region.size.toNat ∧
      Bytes.fits target.size copy.region.destinationOffset.toNat copy.region.size.toNat

/-- The bytes of the destination after a copy. -/
def moved (region : Region) (source target : ByteArray) : ByteArray :=
  Bytes.transfer source region.sourceOffset.toNat target region.destinationOffset.toNat
    region.size.toNat

/-- Where both ranges lie in memory, a copy writes the destination's memory and is counted. -/
theorem copied_eq {m : Machine} {copy : RecordedCopy} {sourceMemory targetMemory : Handle}
    {source target : ByteArray} (hs : m.bindings.get? copy.source = some sourceMemory)
    (ht : m.bindings.get? copy.destination = some targetMemory)
    (hsource : m.memories.get? sourceMemory = some source)
    (htarget : m.memories.get? targetMemory = some target)
    (hsFits : Bytes.fits source.size copy.region.sourceOffset.toNat copy.region.size.toNat)
    (htFits : Bytes.fits target.size copy.region.destinationOffset.toNat copy.region.size.toNat) :
    m.copied copy = .ok { m with
      memories := m.memories.insert targetMemory (moved copy.region source target)
      counters := { m.counters with copiesExecuted := m.counters.copiesExecuted + 1 } } := by
  simp only [copied, hs, ht, hsource, htarget, hsFits, htFits, Bool.and_self, if_true]
  rfl

theorem size_moved {region : Region} {source target : ByteArray}
    (hs : Bytes.fits source.size region.sourceOffset.toNat region.size.toNat)
    (ht : Bytes.fits target.size region.destinationOffset.toNat region.size.toNat) :
    (moved region source target).size = target.size := by
  have hbytes : (moved region source target).data.toList = _ := Bytes.toList_transfer hs
  have hlength := congrArg List.length hbytes
  simp only [Bytes.fits, decide_eq_true_eq] at hs ht
  simp only [Bytes.slice, List.length_append, List.length_take, List.length_drop,
    Array.length_toList, ByteArray.size_data, ByteArray.size_extract] at hlength
  rw [hlength]
  omega

/-- The same bindings, and memories of the same sizes. -/
structure SameShape (m m' : Machine) : Prop where
  bindings : m'.bindings = m.bindings
  sizes : ∀ memory, (m'.memories.get? memory).map (·.size) = (m.memories.get? memory).map (·.size)

theorem SameShape.refl (m : Machine) : SameShape m m := ⟨rfl, fun _ => rfl⟩

theorem SameShape.trans {m₁ m₂ m₃ : Machine} (h : SameShape m₁ m₂) (h' : SameShape m₂ m₃) :
    SameShape m₁ m₃ :=
  ⟨h'.bindings.trans h.bindings, fun memory => (h'.sizes memory).trans (h.sizes memory)⟩

theorem SameShape.memory {m m' : Machine} (h : SameShape m m') {memory : Handle} {bytes : ByteArray}
    (hget : m.memories.get? memory = some bytes) :
    ∃ bytes', m'.memories.get? memory = some bytes' ∧ bytes'.size = bytes.size := by
  have hsize := h.sizes memory
  rw [hget, Option.map_some] at hsize
  exact Option.map_eq_some_iff.1 hsize

theorem CanCopy.of_sameShape {m m' : Machine} {copy : RecordedCopy} (hc : m.CanCopy copy)
    (h : SameShape m m') : m'.CanCopy copy := by
  obtain ⟨sourceMemory, targetMemory, source, target, hs, ht, hsource, htarget, hsFits, htFits⟩ := hc
  obtain ⟨source', hsource', hsSize⟩ := h.memory hsource
  obtain ⟨target', htarget', htSize⟩ := h.memory htarget
  exact ⟨sourceMemory, targetMemory, source', target', h.bindings ▸ hs, h.bindings ▸ ht, hsource',
    htarget', hsSize ▸ hsFits, htSize ▸ htFits⟩

theorem CanCopy.copied {m : Machine} {copy : RecordedCopy} (hc : m.CanCopy copy) :
    ∃ m', m.copied copy = .ok m' ∧ SameShape m m' := by
  obtain ⟨sourceMemory, targetMemory, source, target, hs, ht, hsource, htarget, hsFits, htFits⟩ := hc
  refine ⟨_, copied_eq hs ht hsource htarget hsFits htFits, rfl, fun memory => ?_⟩
  by_cases h : memory = targetMemory
  · subst h
    rw [Table.get?_insert_self, htarget, Option.map_some, Option.map_some, size_moved hsFits htFits]
  · rw [Table.get?_insert_of_ne _ _ h]

theorem canCopy_of_copied {m m' : Machine} {copy : RecordedCopy} (h : m.copied copy = .ok m') :
    m.CanCopy copy := by
  unfold Machine.copied at h
  dsimp only at h
  split at h
  case h_2 => cases h
  case h_1 sourceMemory targetMemory hs ht =>
    split at h
    case h_2 => cases h
    case h_1 source target hsource htarget =>
      split at h
      case isFalse => cases h
      case isTrue hfits =>
        rw [Bool.and_eq_true] at hfits
        exact ⟨sourceMemory, targetMemory, source, target, hs, ht, hsource, htarget, hfits.1, hfits.2⟩

theorem sameShape_copied {m m' : Machine} {copy : RecordedCopy} (h : m.copied copy = .ok m') : SameShape m m' := by
  obtain ⟨m'', hcopied, hshape⟩ := (canCopy_of_copied h).copied
  cases h.symm.trans hcopied
  exact hshape

/-- A copy to where its destination starts leaves the bytes beyond its size as they were. -/
theorem copied_beyond {m m' : Machine} {source destination targetMemory : Handle} {size : UInt64} {before : ByteArray}
    (copied : m.copied ⟨source, destination, ⟨0, 0, size⟩⟩ = .ok m')
    (ht : m.bindings.get? destination = some targetMemory) (hbefore : m.memories.get? targetMemory = some before) :
    ∃ after, m'.memories.get? targetMemory = some after ∧
      after.data.toList.drop size.toNat = before.data.toList.drop size.toNat := by
  obtain ⟨sourceMemory, targetMemory', bytes, target, hs, ht', hbytes, htarget, fits, fits'⟩ :=
    canCopy_of_copied copied
  rw [copied_eq hs ht' hbytes htarget fits fits'] at copied
  cases copied
  cases ht.symm.trans ht'
  cases hbefore.symm.trans htarget
  refine ⟨_, Table.get?_insert_self .., ?_⟩
  -- The copy was executed, so its source has as many bytes as it moved.
  have large : size.toNat ≤ bytes.size := by simpa [Bytes.fits] using fits
  have length : (Bytes.slice bytes 0 size.toNat).data.toList.length = size.toNat := by
    simp [Bytes.slice, Nat.min_eq_left large]
  have list : (moved ⟨0, 0, size⟩ bytes before).data.toList = _ := Bytes.toList_transfer fits
  rw [list]
  simp only [UInt64.toNat_zero, List.take_zero, List.nil_append, Nat.zero_add]
  exact List.drop_left' length

/-! ## Many copies -/

/-- Executes copies up to the first that cannot be, and says why that one cannot. -/
def replay : List RecordedCopy → Machine → Machine × Option Panic
  | [], m => (m, none)
  | copy :: copies, m =>
    match m.copied copy with
    | .ok m => replay copies m
    | .error cause => (m, some cause)

theorem ends_forM_execute (copies : List RecordedCopy) (m : Machine)
    (Q : Except Failure PUnit → Machine → Prop) :
    Ends (copies.forM execute) m Q ↔
      match replay copies m with
      | (m, none) => Q (.ok ()) m
      | (m, some cause) => Q (.error (.panic cause)) m := by
  induction copies generalizing m with
  | nil => exact Iff.rfl
  | cons copy copies ih =>
    rw [List.forM_eq_forM, List.forM_cons, ends_bind, replay]
    cases h : m.copied copy with
    | ok m' =>
      have hrun : execute copy m = .ok () m' := by simp only [execute, h]
      rw [ends_of_ok hrun]
      exact ih m'
    | error cause =>
      have hrun : execute copy m = .error (.panic cause) m := by simp only [execute, h]
      rw [ends_of_error hrun]

/-- A copy changes the memories and the count of copies, and nothing else. -/
theorem copied_frame {m m' : Machine} {copy : RecordedCopy} (h : m.copied copy = .ok m') :
    m' = { m with
      memories := m'.memories
      counters := { m.counters with copiesExecuted := m.counters.copiesExecuted + 1 } } := by
  unfold copied at h
  dsimp only at h
  repeat' split at h
  all_goals first | contradiction | skip
  cases h
  rfl

theorem replay_frame (copies : List RecordedCopy) (m : Machine) :
    ∃ n, (replay copies m).1 = { m with
        memories := (replay copies m).1.memories
        counters := { m.counters with copiesExecuted := m.counters.copiesExecuted + n } } ∧
      ((replay copies m).2 = none → n = copies.length) := by
  induction copies generalizing m with
  | nil => exact ⟨0, rfl, fun _ => rfl⟩
  | cons copy copies ih =>
    unfold replay
    cases h : m.copied copy with
    | error cause => exact ⟨0, rfl, fun h => nomatch h⟩
    | ok m' =>
      obtain ⟨n, hn, hall⟩ := ih m'
      have hm := copied_frame h
      refine ⟨n + 1, ?_, fun h => by rw [hall h, List.length_cons]⟩
      dsimp only
      rw [hn, hm]
      simp only [Nat.add_comm n, Nat.add_assoc]

theorem replay_append (first second : List RecordedCopy) (m : Machine) :
    replay (first ++ second) m =
      match replay first m with
      | (m, none) => replay second m
      | stopped => stopped := by
  induction first generalizing m with
  | nil => rfl
  | cons copy first ih =>
    rw [List.cons_append, replay, replay]
    cases m.copied copy with
    | ok m => exact ih m
    | error cause => rfl

/-- The same bindings and the same bytes. -/
structure SameMemory (m m' : Machine) : Prop where
  bindings : m'.bindings = m.bindings
  memories : m'.memories = m.memories

theorem SameMemory.trans {m₁ m₂ m₃ : Machine} (h : SameMemory m₁ m₂) (h' : SameMemory m₂ m₃) :
    SameMemory m₁ m₃ :=
  ⟨h'.bindings.trans h.bindings, h'.memories.trans h.memories⟩

theorem SameMemory.copied {m₁ m₂ : Machine} (h : SameMemory m₁ m₂) (copy : RecordedCopy) :
    (∃ cause, m₁.copied copy = .error cause ∧ m₂.copied copy = .error cause) ∨
      ∃ m₁' m₂', m₁.copied copy = .ok m₁' ∧ m₂.copied copy = .ok m₂' ∧ SameMemory m₁' m₂' := by
  unfold Machine.copied
  rw [h.bindings, h.memories]
  dsimp only
  repeat' split
  all_goals first
    | exact .inl ⟨_, rfl, rfl⟩
    | exact .inr ⟨_, _, rfl, rfl, rfl, rfl⟩

/-- What copies do to the bytes depends on nothing but the bindings and the bytes. -/
theorem SameMemory.replay {m₁ m₂ : Machine} (h : SameMemory m₁ m₂) (copies : List RecordedCopy) :
    SameMemory (replay copies m₁).1 (replay copies m₂).1 ∧
      (replay copies m₂).2 = (replay copies m₁).2 := by
  induction copies generalizing m₁ m₂ with
  | nil => exact ⟨h, rfl⟩
  | cons copy copies ih =>
    rw [Machine.replay, Machine.replay]
    obtain ⟨cause, h₁, h₂⟩ | ⟨m₁', m₂', h₁, h₂, hsame⟩ := h.copied copy
    · rw [h₁, h₂]
      exact ⟨h, rfl⟩
    · rw [h₁, h₂]
      exact ih hsame

/-- However far copies get, no memory changes its size. -/
theorem sameShape_replay (copies : List RecordedCopy) (m : Machine) : SameShape m (replay copies m).1 := by
  induction copies generalizing m with
  | nil => exact .refl m
  | cons copy copies ih =>
    rw [replay]
    cases h : m.copied copy with
    | error cause => exact .refl m
    | ok m' => exact (sameShape_copied h).trans (ih m')

/-- Copies that can each be executed are all executed. -/
theorem replay_of_canCopy {copies : List RecordedCopy} {m : Machine}
    (h : ∀ copy ∈ copies, m.CanCopy copy) :
    (replay copies m).2 = none ∧ SameShape m (replay copies m).1 := by
  refine ⟨?_, sameShape_replay copies m⟩
  induction copies generalizing m with
  | nil => rfl
  | cons copy copies ih =>
    obtain ⟨m', hcopied, hshape⟩ := (h copy List.mem_cons_self).copied
    rw [replay, hcopied]
    exact ih fun copy hc => (h copy (List.mem_cons_of_mem _ hc)).of_sameShape hshape

end CopyBench.Machine
