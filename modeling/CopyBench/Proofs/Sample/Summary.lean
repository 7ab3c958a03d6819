import CopyBench.Proofs.Action
import CopyBench.Sample.Statistics
import Mathlib.Data.List.Pairwise
import Mathlib.Data.List.Sort
import Mathlib.Order.Bounds.Basic
/-!
# What samples amount to

A summary is computed from the samples in ascending order. The order of binary64 numbers tells any two
with different bits apart, so that samples can be put in ascending order in one way only, and a summary
depends on what was measured and not on when. To ask for one leaves the samples as they were measured.
-/

namespace CopyBench

open CopyBench.Action

namespace Binary64

instance : LinearOrder Binary64 := .lift' rank fun _ _ => rank_injective

end Binary64

namespace Statistics

variable {σ τ : Type} [Console σ] [Console τ] {samples samples' sorted : List Binary64} {summary : Summary}

/-! ## Samples in ascending order -/

/-- The samples in ascending order. -/
def ascending (samples : List Binary64) : List Binary64 := samples.mergeSort Binary64.le

theorem ascending_perm (samples : List Binary64) : (ascending samples).Perm samples := List.mergeSort_perm _ _

theorem ascending_sorted (samples : List Binary64) : (ascending samples).Pairwise (· ≤ ·) :=
  List.pairwise_mergeSort' (· ≤ ·) samples

/-- There is one way only to put samples in ascending order. -/
theorem eq_ascending (perm : sorted.Perm samples) (ascends : sorted.Pairwise (· ≤ ·)) :
    sorted = ascending samples :=
  List.Perm.eq_of_pairwise' ascends (ascending_sorted samples) (perm.trans (ascending_perm samples).symm)

theorem ascending_congr (perm : samples.Perm samples') : ascending samples = ascending samples' :=
  eq_ascending ((ascending_perm samples).trans perm) (ascending_sorted samples)

/-! ## The summary of samples -/

/-- What samples amount to. -/
structure Amounts (samples : List Binary64) (summary : Summary) : Prop where
  count : summary.count = samples.length
  least : IsLeast {x | x ∈ samples} summary.min
  greatest : IsGreatest {x | x ∈ samples} summary.max
  /-- The mean and the median are computed from the one list that holds the samples in ascending order. -/
  figures : ∃ sorted : List Binary64, sorted.Perm samples ∧ sorted.Pairwise (· ≤ ·) ∧
    (∀ other : List Binary64, other.Perm samples → other.Pairwise (· ≤ ·) → other = sorted) ∧
      summary.mean = (total sorted).div (.ofUInt64 samples.length.toUInt64) ∧ summary.median = middle sorted

theorem summary_eq (s : Statistics) : s.summary = summaryOfSorted (ascending s.samples) := rfl

theorem summary_eq_none_iff {s : Statistics} : s.summary = none ↔ s.samples = [] := by
  rw [summary_eq, ← List.length_eq_zero_iff, ← (ascending_perm s.samples).length_eq, List.length_eq_zero_iff]
  cases ascending s.samples with
  | nil => exact iff_of_true rfl rfl
  | cons least rest => exact iff_of_false nofun nofun

theorem amounts_of_summary {s : Statistics} (computed : s.summary = some summary) : Amounts s.samples summary := by
  have perm := ascending_perm s.samples
  have ascends := ascending_sorted s.samples
  have unique {sorted : List Binary64} (perm : sorted.Perm s.samples) (ascends : sorted.Pairwise (· ≤ ·)) :=
    eq_ascending perm ascends
  rw [summary_eq] at computed
  generalize ascending s.samples = sorted at perm ascends unique computed
  match sorted with
  | [] => cases computed
  | first :: rest =>
    obtain ⟨⟩ := computed
    have last : (first :: rest).getLastD .zero = (first :: rest).getLast (List.cons_ne_nil _ _) := by
      rw [List.getLastD_eq_getLast?, List.getLast?_eq_some_getLast (List.cons_ne_nil _ _), Option.getD_some]
    exact
      { count := perm.length_eq
        least := ⟨perm.mem_iff.1 List.mem_cons_self, fun x mem => by
          obtain rfl | later := List.mem_cons.1 (perm.mem_iff.2 mem)
          · exact le_refl x
          · exact List.rel_of_pairwise_cons ascends later⟩
        greatest := last ▸ ⟨perm.mem_iff.1 (List.getLast_mem _), fun x mem => ascends.rel_getLast (perm.mem_iff.2 mem)⟩
        figures := by
          refine ⟨first :: rest, perm, ascends, fun other => unique, ?_, rfl⟩
          rw [← perm.length_eq] }

/-! ## What is asked of samples -/

/-- What can be asked of a set of samples. -/
inductive Request where
  | retag (tag : Tag)
  | push (elapsed : Duration) (bytes : UInt64) (tag : Tag)
  | summarise

/-- The sample that a request adds. -/
def Request.sample? : Request → Option Binary64
  | push elapsed bytes tag => some (tag.measure.sample elapsed bytes)
  | _ => none

/-- Answers requests in order with the summaries that are asked for. -/
def answer : List Request → Action (σ × Statistics) (List (Option Summary))
  | [] => pure []
  | .retag tag :: requests => do
    modify fun (env, s) => (env, s.retag tag)
    answer requests
  | .push elapsed bytes tag :: requests => do
    pushSample elapsed bytes tag
    answer requests
  | .summarise :: requests => do
    let (_, s) ← get
    let later ← answer requests
    return s.summary :: later

/-- A sample is added at the end, and nothing else is done but that a tag which differs is noted. -/
theorem ends_pushSample_push (elapsed : Duration) (bytes : UInt64) (tag : Tag) (env : σ) (s : Statistics) :
    (pushSample elapsed bytes tag).Ends (env, s) fun r after => r = .ok () ∧ after.2 = s.push elapsed bytes tag ∧
      (after.1 = env ∨ ∃ note, after.1 = Console.tell note env) := by
  rw [pushSample, ends_bind, ends_get]
  dsimp only
  cases s.tag with
  | none => exact ⟨rfl, rfl, .inl rfl⟩
  | some existing =>
    dsimp only
    rw [ends_ite]
    split
    · exact ⟨rfl, rfl, .inr ⟨_, rfl⟩⟩
    · exact ⟨rfl, rfl, .inl rfl⟩

/-- Requests are always answered, and leave the samples that they added in the order in which they did. -/
theorem ends_answer (requests : List Request) : ∀ s : σ × Statistics,
    (answer requests).Ends s fun r after => (∃ summaries, r = .ok summaries) ∧
      after.2.samples = s.2.samples ++ requests.filterMap Request.sample? := by
  induction requests with
  | nil => exact fun s => ⟨⟨[], rfl⟩, (List.append_nil _).symm⟩
  | cons request requests ih =>
    rintro ⟨env, s⟩
    cases request with
    | retag tag => exact ih (env, s.retag tag)
    | push elapsed bytes tag =>
      rw [answer, ends_bind]
      refine (ends_pushSample_push elapsed bytes tag env s).mono fun r after h => ?_
      obtain ⟨rfl, pushed, -⟩ := h
      refine (ih after).mono fun r last h => ⟨h.1, ?_⟩
      rw [h.2, pushed, push, List.append_assoc]
      rfl
    | summarise =>
      rw [answer, ends_bind, ends_get]
      dsimp only
      rw [ends_bind]
      refine (ih (env, s)).mono fun r last h => ?_
      obtain ⟨⟨later, rfl⟩, samples⟩ := h
      exact ⟨⟨_, rfl⟩, samples⟩

/-- Two sets of samples that hold the same, in whatever order and between whatever other requests it was
measured, have the same summary. It tells the number of the samples, the least and the greatest of them, and
their mean and median; and the samples are there as they were measured. -/
theorem summary_of_samples (requests requests' : List Request) (s : σ × Statistics) (s' : τ × Statistics)
    (same : (s.2.samples ++ requests.filterMap Request.sample?).Perm
      (s'.2.samples ++ requests'.filterMap Request.sample?)) :
    (answer requests).Ends s fun r after => (answer requests').Ends s' fun r' after' =>
      ((∃ summaries, r = .ok summaries) ∧ ∃ summaries, r' = .ok summaries) ∧
        after.2.samples = s.2.samples ++ requests.filterMap Request.sample? ∧
        after'.2.samples = s'.2.samples ++ requests'.filterMap Request.sample? ∧
        after.2.summary = after'.2.summary ∧
        (after.2.summary = none ↔ after.2.samples = []) ∧
        ∀ summary, after.2.summary = some summary → Amounts after.2.samples summary := by
  refine (ends_answer requests s).mono fun r after h => ?_
  refine (ends_answer requests' s').mono fun r' after' h' => ?_
  refine ⟨⟨h.1, h'.1⟩, h.2, h'.2, ?_, summary_eq_none_iff, fun summary => amounts_of_summary⟩
  have perm : after.2.samples.Perm after'.2.samples := h.2 ▸ h'.2 ▸ same
  rw [summary_eq, summary_eq, ascending_congr perm]

/-- Four samples that are measured in one order, with a summary asked for half way, and in the reverse order. -/
theorem summary_of_samples_reversed :
    let push (gigabytes : UInt64) : Request := .push ⟨1, 0⟩ (gigabytes * 1000000000) ⟨.gigabytesPerSecond, .cpu⟩
    let requests := [push 40, push 10, .summarise, push 30, push 20]
    let requests' := [push 20, push 30, push 10, push 40]
    (requests.filterMap Request.sample?).Perm (requests'.filterMap Request.sample?) ∧
      (answer requests).Ends (({} : Notebook), {}) fun _ after =>
        (answer requests').Ends (({} : Notebook), {}) fun _ after' =>
          after.2.samples = requests.filterMap Request.sample? ∧ after.2.summary = after'.2.summary := by
  intro push requests requests'
  have reversed : (requests.filterMap Request.sample?).Perm (requests'.filterMap Request.sample?) :=
    (List.reverse_perm (requests.filterMap Request.sample?)).symm
  refine ⟨reversed, (summary_of_samples requests requests' (({} : Notebook), {}) (({} : Notebook), {}) reversed).mono
    fun _ after h => h.mono fun _ after' h => ?_⟩
  obtain ⟨-, inOrder, -, agree, -⟩ := h
  exact ⟨inOrder, agree⟩

end Statistics

end CopyBench
