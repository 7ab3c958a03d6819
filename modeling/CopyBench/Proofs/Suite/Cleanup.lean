import CopyBench.Proofs.Suite.Watching
import CopyBench.Suite.Scripted
import Mathlib.Data.List.Nodup
/-!
# Which backends are taken down

A run of a suite leaves for each backend the deeds of one trial or none, and a teardown is the last of them.
It is missing in one case only: the setup ended in a fatal error.
-/

namespace CopyBench

open CopyBench.Action

variable {σ β α ι : Type}

/-- The deeds that were logged under a label. -/
def deedsOf [DecidableEq ι] (label : ι) (log : List (ι × Deed)) : List Deed :=
  log.filterMap fun (other, deed) => if other = label then some deed else none

namespace Deed

/-- The setup was called, and its answer was not that the device is not capable. -/
def Attempted (deeds : List Deed) : Prop := ∃ answer, .setup answer ∈ deeds ∧ answer ≠ .ok false

/-- The setup ended in a fatal error. -/
def SetupFatal (deeds : List Deed) : Prop := ∃ e : Error, e.isFatal = true ∧ .setup (.error (.error e)) ∈ deeds

/-- The backend was taken down once and asked for nothing after that, or it was not taken down at all. It
was taken down exactly when its setup was attempted and did not end in a fatal error. -/
structure Settled (deeds : List Deed) : Prop where
  last : .teardown ∈ deeds → ∃ before, deeds = before ++ [.teardown] ∧ .teardown ∉ before
  exact : .teardown ∈ deeds ↔ Attempted deeds ∧ ¬SetupFatal deeds

/-- What one trial has its backend do. -/
inductive Course : List Deed → Prop where
  | untried : Course []
  | incapable : Course [.setup (.ok false)]
  | aborted {e : Error} (fatal : e.isFatal = true) : Course [.setup (.error (.error e))]
  | refused {e : Error} (mild : ¬e.isFatal = true) : Course [.setup (.error (.error e)), .teardown]
  | ran (outcome : Except Failure Unit) : Course [.setup (.ok true), .run outcome, .teardown]

theorem Course.settled {deeds : List Deed} (h : Course deeds) : Settled deeds := by
  cases h with
  | untried => exact ⟨nofun, by simp [Attempted]⟩
  | incapable => exact ⟨by simp, by simp [Attempted]⟩
  | aborted fatal => exact ⟨by simp, by simp [Attempted, SetupFatal, fatal]⟩
  | @refused e mild => exact ⟨fun _ => ⟨[_], rfl, by simp⟩, by simp [Attempted, SetupFatal, mild]⟩
  | ran outcome => exact ⟨fun _ => ⟨[_, _], rfl, by simp⟩, by simp [Attempted, SetupFatal]⟩

end Deed

open Deed

/-! ## Logs of several backends -/

section Logs

variable [DecidableEq ι] {label : ι} {log more : List (ι × Deed)}

@[simp] theorem deedsOf_append (label : ι) (log more : List (ι × Deed)) :
    deedsOf label (log ++ more) = deedsOf label log ++ deedsOf label more :=
  List.filterMap_append

theorem deedsOf_map_self (label : ι) (deeds : List Deed) :
    deedsOf label (deeds.map fun deed => (label, deed)) = deeds := by
  simp [deedsOf, List.filterMap_map]

theorem deedsOf_eq_nil (h : ∀ entry ∈ log, entry.1 ≠ label) : deedsOf label log = [] := by
  refine List.filterMap_eq_nil_iff.2 fun entry mem => ?_
  dsimp only
  rw [if_neg (h entry mem)]

/-- Each of the labels was tried at most once, and no other. -/
structure Tried (labels : List ι) (log : List (ι × Deed)) : Prop where
  within : ∀ entry ∈ log, entry.1 ∈ labels
  course : ∀ label, Course (deedsOf label log)

/-- The later log has trials of these labels beside the earlier one. -/
def Adds (labels : List ι) (log log' : List (ι × Deed)) : Prop :=
  ∃ more, log' = log ++ more ∧ Tried labels more

variable {labels labels' : List ι} {log' log'' : List (ι × Deed)}

theorem Adds.refl (labels : List ι) (log : List (ι × Deed)) : Adds labels log log :=
  ⟨[], (List.append_nil log).symm, nofun, fun _ => .untried⟩

theorem Adds.weaken (h : Adds labels log log') (sub : labels ⊆ labels') : Adds labels' log log' := by
  obtain ⟨more, hlog, tried⟩ := h
  exact ⟨more, hlog, fun entry mem => sub (tried.within entry mem), tried.course⟩

/-- Trials under different labels do not meet. -/
theorem Adds.trans (apart : labels.Disjoint labels') (h : Adds labels log log') (h' : Adds labels' log' log'') :
    Adds (labels ++ labels') log log'' := by
  obtain ⟨more, rfl, tried⟩ := h
  obtain ⟨more', rfl, tried'⟩ := h'
  refine ⟨more ++ more', List.append_assoc .., fun entry mem => ?_, fun label => ?_⟩
  · exact List.mem_append.2 ((List.mem_append.1 mem).imp (tried.within entry) (tried'.within entry))
  · rw [deedsOf_append]
    by_cases mem : label ∈ labels
    · have nil : deedsOf label more' = [] := deedsOf_eq_nil fun entry hentry heq =>
        apart mem (by rw [← heq]; exact tried'.within entry hentry)
      rw [nil, List.append_nil]
      exact tried.course label
    · have nil : deedsOf label more = [] := deedsOf_eq_nil fun entry hentry heq =>
        mem (by rw [← heq]; exact tried.within entry hentry)
      rw [nil, List.nil_append]
      exact tried'.course label

theorem Deed.Course.adds {deeds : List Deed} (h : Course deeds) (label : ι) (log : List (ι × Deed)) :
    Adds [label] log (log ++ deeds.map fun deed => (label, deed)) := by
  refine ⟨_, rfl, by simp, fun other => ?_⟩
  by_cases heq : other = label
  · rw [heq, deedsOf_map_self]
    exact h
  · rw [deedsOf_eq_nil (by simp [Ne.symm heq])]
    exact .untried

end Logs

/-! ## Trials and runs -/

section Runs

variable [DecidableEq ι] [Console σ] {γ : Type}

/-- Unless it breaks down, the action adds trials of these labels to the log. -/
def Conducts (labels : List ι) (act : Action (σ × List (ι × Deed)) γ) : Prop :=
  ∀ env log, act.Ends (env, log) fun r s => ∀ a, r = .ok a → Adds labels log s.2

variable (impl : Backend σ β α)

/-- A trial takes one of the courses. -/
theorem conducts_trial (label : ι) (backend : β) (arguments : α) :
    Conducts [label] (impl.watched.trial (label, backend) arguments false) := fun env log => by
  rw [Backend.ends_trial, Backend.ends_execute]
  change (impl.watched.setup arguments).Ends ((_, log), (label, _)) _
  rw [Backend.ends_watched_setup]
  refine .of_forall fun r s => ?_
  rcases r with (e | p) | _ | _
  · dsimp only
    split
    case isTrue fatal => exact fun _ _ => (Course.aborted fatal).adds label log
    case isFalse mild =>
      dsimp only [Backend.watched, Backend.complained, Console.tell]
      rw [List.append_assoc]
      exact fun _ _ => (Course.refused mild).adds label log
  · exact nofun
  · exact fun _ _ => Course.incapable.adds label log
  · dsimp only
    rw [Backend.ends_watched_run]
    refine .of_forall fun r s => ?_
    have ran : Adds [label] log
        (log ++ [(label, .setup (.ok true))] ++ [(label, .run r)] ++ [(label, .teardown)]) := by
      rw [List.append_assoc, List.append_assoc]
      exact (Course.ran r).adds label log
    rcases r with (e | p) | _
    · dsimp only
      split
      · exact fun _ _ => ran
      · exact fun _ _ => ran
    · exact nofun
    · exact fun _ _ => ran

/-- The trials of a case, whose backends have different labels. -/
theorem conducts_tryBackends (name : String) (arguments : α) : ∀ (backends : List (ι × β)),
    (backends.map (·.1)).Nodup →
      Conducts (backends.map (·.1)) (TestCase.tryBackends impl.watched name arguments false backends)
  | [], _ => fun _ log _ _ => .refl _ log
  | (label, backend) :: rest, distinct => fun env log => by
    obtain ⟨new, distinct⟩ := List.nodup_cons.1 distinct
    rw [TestCase.ends_tryBackends_cons]
    -- The labels after a fatal error are left untried, which is a course as well.
    refine (conducts_trial impl label backend arguments _ log).mono fun r s h => ?_
    rcases r with f | ⟨backend, statistics, e | result⟩
    · exact nofun
    · exact fun _ _ => (h _ rfl).weaken (by simp)
    · refine (conducts_tryBackends name arguments rest distinct s.1 s.2).mono fun r s' h' => ?_
      rcases r with f | ⟨rest, reports⟩
      · exact nofun
      · exact fun _ _ => (h _ rfl).trans (List.singleton_disjoint.2 new) (h' _ rfl)

/-- The labels of a case's backends. -/
def TestCase.labels (case : TestCase (ι × β) α) : List ι := case.backends.map (·.1)

theorem conducts_run (case : TestCase (ι × β) α) (distinct : case.labels.Nodup) :
    Conducts case.labels (case.run impl.watched false) := fun env log => by
  rw [TestCase.ends_run]
  refine (conducts_tryBackends impl case.name case.arguments case.backends distinct env log).mono fun r s h => ?_
  rcases r with f | ⟨backends, reports⟩
  · exact nofun
  · exact fun _ _ => h _ rfl

/-- The cases of a suite, all of whose backends have different labels. -/
theorem conducts_runCases (filter : Option String) : ∀ (cases : List (TestCase (ι × β) α)),
    (cases.flatMap (·.labels)).Nodup →
      Conducts (cases.flatMap (·.labels)) (Suite.runCases impl.watched filter false cases)
  | [], _ => fun _ log _ _ => .refl _ log
  | case :: rest, distinct => fun env log => by
    rw [List.flatMap_cons] at distinct ⊢
    obtain ⟨here, later, apart⟩ := List.nodup_append'.1 distinct
    rw [Suite.ends_runCases_cons]
    split
    · refine (conducts_run impl case here env log).mono fun r s h => ?_
      rcases r with f | ⟨case', e | reports⟩
      · exact nofun
      · exact fun _ _ => (h _ rfl).weaken (List.subset_append_left _ _)
      · refine (conducts_runCases filter rest later s.1 s.2).mono fun r s' h' => ?_
        rcases r with f | ⟨rest, reports, stop⟩
        · exact nofun
        · exact fun _ _ => (h _ rfl).trans apart (h' _ rfl)
    · refine (conducts_runCases filter rest later env log).mono fun r s h => ?_
      rcases r with f | ⟨rest, reports, stop⟩
      · exact nofun
      · exact fun _ _ => (h _ rfl).weaken (List.subset_append_right _ _)

/-- When a run of a suite returns, every backend whose setup was attempted has been taken down once, as the
last thing, unless that setup ended in a fatal error; and no other backend has been taken down. -/
theorem Suite.settled_of_run (suite : Suite (ι × β) α) (wet : suite.noop = false)
    (distinct : (suite.cases.flatMap (·.labels)).Nodup) (env : σ) :
    (suite.run impl.watched).Ends (env, []) fun r s =>
      ∀ after, r = .ok after → ∀ label, Settled (deedsOf label s.2) := by
  rw [Suite.ends_run, wet]
  refine (conducts_runCases impl suite.filter suite.cases distinct env []).mono fun r s h => ?_
  rcases r with f | ⟨cases, reports, stop⟩
  · exact nofun
  · intro _ _ label
    obtain ⟨more, hlog, tried⟩ := h _ rfl
    rw [Suite.warned_unlabelled, hlog, List.nil_append]
    exact (tried.course label).settled

end Runs

/-- A suite with one backend, whose setup ends in a fatal error. -/
def unprepared : Suite (String × ScriptedBackend) UInt64 where
  cases := [{
    name := "A"
    arguments := 64
    backends := [("x", { name := "x", setups := [.error (.configuration (.stated "no such device"))] })] }]

/-- The backend of that suite is attempted and is not taken down. -/
theorem settled_unprepared : unprepared.noop = false ∧ (unprepared.cases.flatMap (·.labels)).Nodup ∧
    (unprepared.run ScriptedBackend.backend.watched).Ends ({}, []) fun r s =>
      (∀ after, r = .ok after → ∀ label, Settled (deedsOf label s.2)) ∧ r.toOption.isSome = true ∧
        deedsOf "x" s.2 = [.setup (.error (.error (.configuration (.stated "no such device"))))] := by
  have ends : (unprepared.run ScriptedBackend.backend.watched).Ends ({}, []) fun r s =>
      r.toOption.isSome = true ∧
        deedsOf "x" s.2 = [.setup (.error (.error (.configuration (.stated "no such device"))))] := ⟨rfl, rfl⟩
  have distinct : (unprepared.cases.flatMap (·.labels)).Nodup := by decide
  exact ⟨rfl, distinct, (Suite.settled_of_run ScriptedBackend.backend unprepared rfl distinct {}).and ends⟩

end CopyBench
