import CopyBench.Proofs.Suite.Trial
/-!
# Watched backends

Every backend can be watched: beside what it does, it enters into a log what it was asked and how it
answered, under a label of its own. A suite of watched backends runs as it does without the log.
-/

namespace CopyBench

open CopyBench.Action

/-- Something that a trial had its backend do, with how that ended. -/
inductive Deed where
  | setup (answer : Except Failure Bool)
  | run (outcome : Except Failure Unit)
  | teardown

variable {σ β α ι : Type}

namespace Backend

/-- The backend with a label, which logs what it is asked to do beside doing it. -/
def watched (impl : Backend σ β α) : Backend (σ × List (ι × Deed)) (ι × β) α where
  api := fun (_, backend) => impl.api backend
  tag arguments := fun ((env, deeds), (label, backend)) =>
    let (tag, (env, backend)) := impl.tag arguments (env, backend)
    (tag, ((env, deeds), (label, backend)))
  setup arguments := fun ((env, deeds), (label, backend)) =>
    match impl.setup arguments (env, backend) with
    | .ok capable (env, backend) =>
      .ok capable ((env, deeds ++ [(label, .setup (.ok capable))]), (label, backend))
    | .error f (env, backend) =>
      .error f ((env, deeds ++ [(label, .setup (.error f))]), (label, backend))
  run arguments := fun (((env, deeds), (label, backend)), statistics) =>
    match impl.run arguments ((env, backend), statistics) with
    | .ok _ ((env, backend), statistics) =>
      .ok () (((env, deeds ++ [(label, .run (.ok ()))]), (label, backend)), statistics)
    | .error f ((env, backend), statistics) =>
      .error f (((env, deeds ++ [(label, .run (.error f))]), (label, backend)), statistics)
  teardown := fun ((env, deeds), (label, backend)) =>
    let (env, backend) := impl.teardown (env, backend)
    ((env, deeds ++ [(label, .teardown)]), (label, backend))

end Backend

namespace Backend

variable (impl : Backend σ β α) (arguments : α) (env : σ) (log : List (ι × Deed)) (label : ι) (backend : β)

theorem ends_watched_setup (Q : Except Failure Bool → (σ × List (ι × Deed)) × ι × β → Prop) :
    (impl.watched.setup arguments).Ends ((env, log), (label, backend)) Q ↔
      (impl.setup arguments).Ends (env, backend) fun r s =>
        Q r ((s.1, log ++ [(label, .setup r)]), (label, s.2)) := by
  unfold Ends watched
  dsimp only
  rcases impl.setup arguments (env, backend) with ⟨capable, env, backend⟩ | ⟨f, env, backend⟩ <;> rfl

theorem ends_watched_run (statistics : Statistics)
    (Q : Except Failure Unit → ((σ × List (ι × Deed)) × ι × β) × Statistics → Prop) :
    (impl.watched.run arguments).Ends (((env, log), (label, backend)), statistics) Q ↔
      (impl.run arguments).Ends ((env, backend), statistics) fun r s =>
        Q r (((s.1.1, log ++ [(label, .run r)]), (label, s.1.2)), s.2) := by
  unfold Ends watched
  dsimp only
  rcases impl.run arguments ((env, backend), statistics) with ⟨_, ⟨env, backend⟩, s⟩ | ⟨f, ⟨env, backend⟩, s⟩ <;>
    rfl

end Backend

/-! ## Watching changes nothing -/

section Shadows

variable [Console σ] {γ δ : Type}

/-- Beside its log, the action ends as another one does, whose values are the images under `f`. -/
def Shadows (f : γ → δ) (act : Action (σ × List (ι × Deed)) γ) (plain : Action σ δ) : Prop :=
  ∀ env log (Q : Except Failure δ → σ → Prop), plain.Ends env Q → act.Ends (env, log) fun r s => Q (r.map f) s.1

/-- The case without the labels of its backends. -/
def TestCase.unlabelled (case : TestCase (ι × β) α) : TestCase β α :=
  { case with backends := case.backends.map (·.2) }

/-- The suite without the labels of its backends. -/
def Suite.unlabelled (suite : Suite (ι × β) α) : Suite β α :=
  { suite with cases := suite.cases.map (·.unlabelled) }

variable (impl : Backend σ β α)

theorem shadows_trial (backend : ι × β) (arguments : α) (noop : Bool) :
    Shadows (fun (backend, outcome) => (backend.2, outcome)) (impl.watched.trial backend arguments noop)
      (impl.trial backend.2 arguments noop) := fun env log Q => by
  rw [Backend.ends_trial, Backend.ends_trial]
  cases noop with
  | true =>
    rw [Backend.ends_execute_dry, Backend.ends_execute_dry]
    exact id
  | false =>
    rw [Backend.ends_execute, Backend.ends_execute]
    change _ → (impl.watched.setup arguments).Ends ((_, log), (backend.1, _)) _
    rw [Backend.ends_watched_setup]
    -- Both trials go by one answer of the setup, and then by one outcome of the run.
    refine fun h => h.mono fun r s h => ?_
    rcases r with (e | p) | _ | _
    · dsimp only at h ⊢
      split at h
      case isTrue fatal =>
        rw [if_pos fatal]
        exact h
      case isFalse mild =>
        rw [if_neg mild]
        exact h
    · exact h
    · exact h
    · dsimp only at h ⊢
      rw [Backend.ends_watched_run]
      refine h.mono fun r s h => ?_
      rcases r with (e | p) | _
      · dsimp only at h ⊢
        split at h
        case isTrue fatal =>
          rw [if_pos fatal]
          exact h
        case isFalse mild =>
          rw [if_neg mild]
          exact h
      · exact h
      · exact h

theorem shadows_tryBackends (name : String) (arguments : α) (noop : Bool) : ∀ (backends : List (ι × β)),
    Shadows (fun (backends, reports) => (backends.map (·.2), reports))
      (TestCase.tryBackends impl.watched name arguments noop backends)
      (TestCase.tryBackends impl name arguments noop (backends.map (·.2)))
  | [] => fun _ _ _ h => h
  | backend :: rest => fun env log Q h => by
    rw [List.map_cons, TestCase.ends_tryBackends_cons] at h
    rw [TestCase.ends_tryBackends_cons]
    refine (shadows_trial impl backend arguments noop _ log _ h).mono fun r s h => ?_
    rcases r with f | ⟨backend, statistics, e | result⟩
    · exact h
    · exact h
    · refine (shadows_tryBackends name arguments noop rest s.1 s.2 _ h).mono fun r s h => ?_
      rcases r with f | ⟨rest, reports⟩ <;> exact h

theorem shadows_runCases (filter : Option String) (noop : Bool) : ∀ (cases : List (TestCase (ι × β) α)),
    Shadows (fun (cases, outcome) => (cases.map (·.unlabelled), outcome))
      (Suite.runCases impl.watched filter noop cases)
      (Suite.runCases impl filter noop (cases.map (·.unlabelled)))
  | [] => fun _ _ _ h => h
  | case :: rest => fun env log Q h => by
    rw [List.map_cons, Suite.ends_runCases_cons] at h
    rw [Suite.ends_runCases_cons]
    change if case.selectedBy filter = true then _ else _ at h
    split at h
    case isTrue selected =>
      rw [if_pos selected]
      rw [TestCase.ends_run] at h ⊢
      refine (shadows_tryBackends impl case.name case.arguments noop case.backends env log _ h).mono fun r s h => ?_
      rcases r with f | ⟨backends, e | reports⟩
      · exact h
      · exact h
      · refine (shadows_runCases filter noop rest s.1 s.2 _ h).mono fun r s h => ?_
        rcases r with f | ⟨rest, reports, stop⟩ <;> exact h
    case isFalse passed =>
      rw [if_neg passed]
      refine (shadows_runCases filter noop rest env log _ h).mono fun r s h => ?_
      rcases r with f | ⟨rest, reports, stop⟩ <;> exact h

theorem Suite.selectedNames_unlabelled (suite : Suite (ι × β) α) :
    suite.unlabelled.selectedNames = suite.selectedNames := by
  simp only [selectedNames, unlabelled, List.filter_map, List.map_map]
  rfl

theorem Suite.warned_unlabelled (suite : Suite (ι × β) α) (env : σ) (log : List (ι × Deed)) :
    suite.warned (env, log) = (suite.unlabelled.warned env, log) := by
  have state : suite.unlabelled.state = suite.state := rfl
  have filter : suite.unlabelled.filter = suite.filter := rfl
  unfold warned
  rw [selectedNames_unlabelled, state, filter]
  rcases suite.state with _ | _ | ⟨_, _⟩ <;> rcases suite.filter with _ | name <;> try rfl
  -- A suite that finished and has a filter may warn.
  dsimp only
  split <;> rfl

/-- A suite whose backends are watched runs as it does otherwise. -/
theorem Suite.shadows_run (suite : Suite (ι × β) α) :
    Shadows Suite.unlabelled (suite.run impl.watched) (suite.unlabelled.run impl) := fun env log Q h => by
  rw [Suite.ends_run] at h ⊢
  refine (shadows_runCases impl suite.filter suite.noop suite.cases env log _ h).mono fun r s h => ?_
  rcases r with f | ⟨cases, reports, stop⟩
  · exact h
  · dsimp only at h ⊢
    rw [Suite.warned_unlabelled]
    exact h

end Shadows

end CopyBench
