import CopyBench.Proofs.Action
import CopyBench.Suite.Basic
/-!
# Trials of any backend

Whatever a backend does, a trial of it goes one of a few ways: dry, not capable, stopped at the setup, or run
and taken down. The rules below say what each way leaves and how the trials of a case and the cases of a
suite follow one another.
-/

namespace CopyBench

open CopyBench.Action

variable {σ β α : Type}

namespace Backend

@[simp] theorem ends_announce (impl : Backend σ β α) (arguments : α) (s : (σ × β) × Statistics)
    (Q : Except Failure Unit → (σ × β) × Statistics → Prop) :
    Ends (impl.announce arguments) s Q ↔
      Q (.ok ()) ((impl.tag arguments s.1).2, s.2.retag (impl.tag arguments s.1).1) := Iff.rfl

@[simp] theorem ends_close (impl : Backend σ β α) (s : (σ × β) × Statistics)
    (Q : Except Failure Unit → (σ × β) × Statistics → Prop) :
    Ends impl.close s Q ↔ Q (.ok ()) (impl.teardown s.1, s.2) := Iff.rfl

variable [Console σ]

/-- The state after it was logged that a stage of a trial failed. -/
def complained (impl : Backend σ β α) (stage : String) (e : Error) (s : (σ × β) × Statistics) :
    (σ × β) × Statistics :=
  Console.tell (.logged .error ((impl.api s.1.2).name ++ " " ++ stage ++ " failed: " ++ e.message)) s

@[simp] theorem ends_reportFailure (impl : Backend σ β α) (stage : String) (e : Error)
    (s : (σ × β) × Statistics) (Q : Except Failure TestResult → (σ × β) × Statistics → Prop) :
    Ends (impl.reportFailure stage e) s Q ↔ Q (.ok .error) (impl.complained stage e s) := Iff.rfl

variable (impl : Backend σ β α) (arguments : α) (s : (σ × β) × Statistics)

/-- A dry trial only asks for the tag. -/
theorem ends_execute_dry (Q : Except Failure TestResult → (σ × β) × Statistics → Prop) :
    Ends (impl.execute arguments true) s Q ↔
      Q (.ok .nooped) ((impl.tag arguments s.1).2, s.2.retag (impl.tag arguments s.1).1) := by
  rw [execute, ends_bind, ends_announce]
  exact Iff.rfl

/-- What is left of a trial after its setup succeeded. -/
theorem ends_run_close (Q : Except Failure TestResult → (σ × β) × Statistics → Prop) :
    Ends (do
      let outcome ← Action.recover (impl.run arguments)
      impl.close
      match outcome with
      | .ok () => pure .success
      | .error e => if e.isFatal then Action.fail e else impl.reportFailure "run" e) s Q ↔
    (impl.run arguments).Ends s fun r s =>
      match r with
      | .ok _ => Q (.ok .success) (impl.teardown s.1, s.2)
      | .error (.error e) =>
        if e.isFatal then Q (.error (.error e)) (impl.teardown s.1, s.2)
        else Q (.ok .error) (impl.complained "run" e (impl.teardown s.1, s.2))
      | .error (.panic p) => Q (.error (.panic p)) s := by
  rw [ends_bind, ends_recover]
  apply ends_congr
  rintro ((e | p) | _) s
  · dsimp only
    rw [ends_bind, ends_close]
    dsimp only
    rw [ends_ite]
    exact Iff.rfl
  · exact Iff.rfl
  · exact Iff.rfl

/-- A trial that is not dry tears down after its run, however that ends, and after a setup that failed
without ending the whole run. -/
theorem ends_execute (Q : Except Failure TestResult → (σ × β) × Statistics → Prop) :
    Ends (impl.execute arguments false) s Q ↔
      (impl.setup arguments).Ends (impl.tag arguments s.1).2 fun r s₁ =>
        let statistics := s.2.retag (impl.tag arguments s.1).1
        match r with
        | .ok true => (impl.run arguments).Ends (s₁, statistics) fun r s =>
          match r with
          | .ok _ => Q (.ok .success) (impl.teardown s.1, s.2)
          | .error (.error e) =>
            if e.isFatal then Q (.error (.error e)) (impl.teardown s.1, s.2)
            else Q (.ok .error) (impl.complained "run" e (impl.teardown s.1, s.2))
          | .error (.panic p) => Q (.error (.panic p)) s
        | .ok false => Q (.ok .deviceNotCapable) (s₁, statistics)
        | .error (.error e) =>
          if e.isFatal then Q (.error (.error e)) (s₁, statistics)
          else Q (.ok .error) (impl.teardown (impl.complained "setup" e (s₁, statistics)).1, statistics)
        | .error (.panic p) => Q (.error (.panic p)) (s₁, statistics) := by
  rw [execute, ends_bind, ends_announce]
  dsimp only
  rw [if_neg Bool.false_ne_true, ends_bind, ends_recover, ends_onFirst]
  apply ends_congr
  rintro ((e | p) | _ | _) s₁
  · dsimp only
    rw [ends_ite, ends_bind, ends_reportFailure]
    exact Iff.rfl
  · exact Iff.rfl
  · exact Iff.rfl
  · exact ends_run_close impl arguments _ Q

/-- A trial of a backend with fresh statistics hands its errors on as an outcome. -/
theorem ends_trial (backend : β) (noop : Bool) (env : σ)
    (Q : Except Failure (β × Statistics × Except Error TestResult) → σ → Prop) :
    Ends (impl.trial backend arguments noop) env Q ↔
      (impl.execute arguments noop).Ends ((env, backend), {}) fun r s =>
        match r with
        | .ok result => Q (.ok (s.1.2, s.2, .ok result)) s.1.1
        | .error (.error e) => Q (.ok (s.1.2, s.2, .error e)) s.1.1
        | .error (.panic p) => Q (.error (.panic p)) s.1.1 := by
  unfold Ends trial
  rcases impl.execute arguments noop ((env, backend), {}) with ⟨result, _⟩ | ⟨_ | _, _⟩ <;> rfl

end Backend

namespace TestCase

variable [Console σ] (impl : Backend σ β α)

/-- The trials of a case: the first one, and the others unless it was stopped by a fatal error. -/
theorem ends_tryBackends_cons (name : String) (arguments : α) (noop : Bool) (backend : β) (rest : List β)
    (env : σ) (Q : Except Failure (List β × Except Error (List CaseReport)) → σ → Prop) :
    Ends (tryBackends impl name arguments noop (backend :: rest)) env Q ↔
      (impl.trial backend arguments noop).Ends
          (Console.tell (.logged .debug ("running " ++ name ++ " [" ++ (impl.api backend).name ++ "]")) env)
        fun r env =>
          match r with
          | .error f => Q (.error f) env
          | .ok (backend, _, .error e) => Q (.ok (backend :: rest, .error e)) env
          | .ok (backend', statistics, .ok result) =>
            (tryBackends impl name arguments noop rest).Ends env fun r env =>
              match r with
              | .error f => Q (.error f) env
              | .ok (rest, reports) =>
                Q (.ok (backend' :: rest,
                  reports.map (⟨name, impl.api backend, result, statistics⟩ :: ·))) env := by
  rw [tryBackends]
  dsimp only
  rw [ends_bind, ends_log]
  dsimp only
  rw [ends_bind]
  apply ends_congr
  rintro (f | ⟨backend, statistics, e | result⟩) env
  · exact Iff.rfl
  · exact Iff.rfl
  · dsimp only
    rw [ends_bind]
    apply ends_congr
    rintro (f | ⟨rest, reports⟩) env <;> exact Iff.rfl

theorem ends_run (case : TestCase β α) (noop : Bool) (env : σ)
    (Q : Except Failure (TestCase β α × Except Error (List CaseReport)) → σ → Prop) :
    Ends (case.run impl noop) env Q ↔
      (tryBackends impl case.name case.arguments noop case.backends).Ends env fun r env =>
        match r with
        | .error f => Q (.error f) env
        | .ok (backends, reports) => Q (.ok ({ case with backends }, reports)) env := by
  rw [run, ends_bind]
  apply ends_congr
  rintro (f | ⟨backends, reports⟩) env <;> exact Iff.rfl

end TestCase

namespace Suite

/-- The state of a suite whose run was stopped by a fatal error, or was not. -/
def stateAfter : Option (String × Error) → SuiteState
  | some (name, e) => .fatalError name e
  | none => .finished

variable [Console σ] (impl : Backend σ β α)

/-- The cases of a suite: those that are not selected are passed over, and the first fatal error ends the
run. -/
theorem ends_runCases_cons (filter : Option String) (noop : Bool) (case : TestCase β α)
    (rest : List (TestCase β α)) (env : σ)
    (Q : Except Failure (List (TestCase β α) × List CaseReport × Option (String × Error)) → σ → Prop) :
    Ends (runCases impl filter noop (case :: rest)) env Q ↔
      if case.selectedBy filter then (case.run impl noop).Ends env fun r env =>
        match r with
        | .error f => Q (.error f) env
        | .ok (case, .error e) => Q (.ok (case :: rest, [], some (case.name, e))) env
        | .ok (case, .ok reports) => (runCases impl filter noop rest).Ends env fun r env =>
          match r with
          | .error f => Q (.error f) env
          | .ok (rest, more, stop) => Q (.ok (case :: rest, reports ++ more, stop)) env
      else (runCases impl filter noop rest).Ends env fun r env =>
        match r with
        | .error f => Q (.error f) env
        | .ok (rest, more, stop) => Q (.ok (case :: rest, more, stop)) env := by
  rw [runCases]
  split
  · rw [ends_bind]
    apply ends_congr
    rintro (f | ⟨case, e | reports⟩) env
    · exact Iff.rfl
    · exact Iff.rfl
    · dsimp only
      rw [ends_bind]
      apply ends_congr
      rintro (f | ⟨rest, more, stop⟩) env <;> exact Iff.rfl
  · rw [ends_bind]
    apply ends_congr
    rintro (f | ⟨rest, more, stop⟩) env <;> exact Iff.rfl

/-- The surroundings after a run that led to this suite: that no case was selected is warned about. -/
def warned (after : Suite β α) (env : σ) : σ :=
  match after.state, after.filter with
  | .finished, some name =>
    if after.selectedNames = [] then Console.tell (.logged .warn ("no test case named " ++ name)) env else env
  | _, _ => env

/-- Running a suite runs its cases and keeps what came of them. -/
theorem ends_run (suite : Suite β α) (env : σ) (Q : Except Failure (Suite β α) → σ → Prop) :
    Ends (suite.run impl) env Q ↔
      (runCases impl suite.filter suite.noop suite.cases).Ends env fun r env =>
        match r with
        | .error f => Q (.error f) env
        | .ok (cases, reports, stop) =>
          let after := { suite with cases, reports := suite.reports ++ reports, state := stateAfter stop }
          Q (.ok after) (after.warned env) := by
  obtain ⟨cases, filter, noop, reports, state⟩ := suite
  rw [run, ends_bind]
  apply ends_congr
  rintro (f | ⟨cases, more, _ | ⟨name, e⟩⟩) env
  · exact Iff.rfl
  · cases filter with
    | none => exact Iff.rfl
    | some name =>
      dsimp only [stateAfter, warned]
      rw [ends_ite]
      split
      case isTrue bare =>
        rw [if_pos (by exact bare)]
        exact Iff.rfl
      case isFalse some =>
        rw [if_neg (by exact some)]
        exact Iff.rfl
  · exact Iff.rfl

end Suite

end CopyBench
