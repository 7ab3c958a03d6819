import CopyBench.Console
/-!
# How actions end

`act.Ends s Q` says that `act`, started in `s`, ends in an outcome and a state that satisfy `Q`. The
rules below reduce it to the same question about the parts of `act`, so a proof about an action
follows the action's own text. Since the state is kept on failure, errors and panics are outcomes
like any other.
-/

namespace CopyBench.Action

variable {σ τ α β : Type}

/-- Where an action ends, and how. -/
def Ends (act : Action σ α) (s : σ) (Q : Except Failure α → σ → Prop) : Prop :=
  match act s with
  | .ok a s => Q (.ok a) s
  | .error f s => Q (.error f) s

theorem Ends.mono {act : Action σ α} {s : σ} {P Q : Except Failure α → σ → Prop}
    (h : act.Ends s P) (hPQ : ∀ r s, P r s → Q r s) : act.Ends s Q := by
  revert h
  unfold Ends
  rcases act s with ⟨a, s⟩ | ⟨f, s⟩ <;> exact hPQ _ _

theorem ends_congr {act : Action σ α} {s : σ} {P Q : Except Failure α → σ → Prop}
    (h : ∀ r s, P r s ↔ Q r s) : act.Ends s P ↔ act.Ends s Q :=
  ⟨fun hP => hP.mono fun r s => (h r s).1, fun hQ => hQ.mono fun r s => (h r s).2⟩

/-- Two facts about the same run hold of the same outcome. -/
theorem Ends.and {act : Action σ α} {s : σ} {P Q : Except Failure α → σ → Prop}
    (hP : act.Ends s P) (hQ : act.Ends s Q) : act.Ends s fun r s => P r s ∧ Q r s := by
  revert hP hQ
  unfold Ends
  rcases act s with ⟨a, s⟩ | ⟨f, s⟩ <;> exact And.intro

theorem Ends.of_forall {act : Action σ α} {s : σ} {Q : Except Failure α → σ → Prop}
    (h : ∀ r s, Q r s) : act.Ends s Q := by
  unfold Ends
  rcases act s with ⟨a, s⟩ | ⟨f, s⟩ <;> exact h _ _

theorem Ends.forall {ι : Sort _} {act : Action σ α} {s : σ} {Q : ι → Except Failure α → σ → Prop}
    (h : ∀ i, act.Ends s (Q i)) : act.Ends s fun r s => ∀ i, Q i r s := by
  revert h
  unfold Ends
  rcases act s with ⟨a, s⟩ | ⟨f, s⟩ <;> exact id

theorem ends_of_ok {act : Action σ α} {s s' : σ} {a : α} {Q : Except Failure α → σ → Prop}
    (h : act s = .ok a s') : act.Ends s Q ↔ Q (.ok a) s' := by
  simp [Ends, h]

theorem ends_of_error {act : Action σ α} {s s' : σ} {f : Failure} {Q : Except Failure α → σ → Prop}
    (h : act s = .error f s') : act.Ends s Q ↔ Q (.error f) s' := by
  simp [Ends, h]

/-- An action that can only end in one way ends so. -/
theorem eq_ok_of_ends {act : Action σ α} {s t : σ} {a : α}
    (h : act.Ends s fun r s' => r = .ok a ∧ s' = t) : act s = .ok a t := by
  unfold Ends at h
  rcases hrun : act s with ⟨a', s'⟩ | ⟨f, s'⟩
  · rw [hrun] at h
    obtain ⟨ha, rfl⟩ := h
    cases ha
    rfl
  · rw [hrun] at h
    cases h.1

/-- An action that can only fail in one way fails so. -/
theorem eq_error_of_ends {act : Action σ α} {s t : σ} {f : Failure}
    (h : act.Ends s fun r s' => r = .error f ∧ s' = t) : act s = .error f t := by
  unfold Ends at h
  rcases hrun : act s with ⟨a, s'⟩ | ⟨f', s'⟩
  · rw [hrun] at h
    cases h.1
  · rw [hrun] at h
    obtain ⟨hf, rfl⟩ := h
    cases hf
    rfl

/-- An action that gives no value fails. -/
theorem exists_eq_error {act : Action σ α} {s : σ} (h : act.Ends s fun r _ => r.toOption.isNone = true) :
    ∃ f, act s = .error f (act.finalState s) := by
  revert h
  unfold Ends finalState
  rcases act s with ⟨a, s'⟩ | ⟨f, s'⟩
  · exact nofun
  · exact fun _ => ⟨f, rfl⟩

/-- An action that gives some value ends with it. -/
theorem exists_eq_ok {act : Action σ α} {s : σ} (h : act.Ends s fun r _ => r.toOption.isSome = true) :
    ∃ a, act s = .ok a (act.finalState s) := by
  revert h
  unfold Ends finalState
  rcases act s with ⟨a, s'⟩ | ⟨f, s'⟩
  · exact fun _ => ⟨a, rfl⟩
  · exact nofun

/-- An action that gives a value ends with it. -/
theorem eq_ok_of_value {act : Action σ α} {s : σ} {a : α}
    (h : act.Ends s fun r _ => r.toOption = some a) : act s = .ok a (act.finalState s) := by
  revert h
  unfold Ends finalState
  rcases act s with ⟨a', s'⟩ | ⟨f, s'⟩
  · intro h
    rw [Option.some.inj h]
  · exact nofun

/-- An action that ends with a value is one that gives it. -/
theorem ends_eq_ok (act : Action σ α) (s : σ) : act.Ends s fun r s' => ∀ a, r = .ok a → act s = .ok a s' := by
  unfold Ends
  rcases act s with ⟨a, s⟩ | ⟨f, s⟩
  · rintro _ ⟨⟩
    rfl
  · exact nofun

instance (act : Action σ α) (s : σ) (Q : Except Failure α → σ → Prop) [∀ r s, Decidable (Q r s)] :
    Decidable (act.Ends s Q) :=
  match h : act s with
  | .ok a s' => decidable_of_iff (Q (.ok a) s') (ends_of_ok h).symm
  | .error f s' => decidable_of_iff (Q (.error f) s') (ends_of_error h).symm

/-- A fact that depends on neither outcome nor state holds. -/
theorem Ends.elim {act : Action σ α} {s : σ} {p : Prop} (h : act.Ends s fun _ _ => p) : p := by
  revert h
  unfold Ends
  rcases act s with ⟨a, s⟩ | ⟨f, s⟩ <;> exact id

/-- An action ends where it ends. -/
theorem ends_self (act : Action σ α) (s : σ) :
    act.Ends s fun r s' => act.Ends s fun r₀ s₀ => r₀ = r ∧ s₀ = s' := by
  unfold Ends
  rcases act s with ⟨a, s⟩ | ⟨f, s⟩ <;> exact ⟨rfl, rfl⟩

/-- A fact about the state alone is a fact about the final state. -/
theorem ends_finalState {act : Action σ α} {s : σ} {Q : σ → Prop} :
    (act.Ends s fun _ s => Q s) ↔ Q (act.finalState s) := by
  unfold Ends finalState
  rcases act s with ⟨a, s⟩ | ⟨f, s⟩ <;> rfl

/-- An action has one outcome, with its final state. -/
theorem Ends.exists_outcome {act : Action σ α} {s : σ} {Q : Except Failure α → σ → Prop} (h : act.Ends s Q) :
    ∃ r, Q r (act.finalState s) ∧ act.Ends s fun r' _ => r' = r := by
  revert h
  unfold Ends finalState
  rcases act s with ⟨a, s⟩ | ⟨f, s⟩ <;> exact fun h => ⟨_, h, rfl⟩

theorem finalState_of_ok {act : Action σ α} {s s' : σ} {a : α} (run : act s = .ok a s') :
    act.finalState s = s' := by
  rw [finalState, run]

/-! ## Plain steps -/

@[simp] theorem ends_pure (a : α) (s : σ) (Q : Except Failure α → σ → Prop) :
    Ends (pure a) s Q ↔ Q (.ok a) s := Iff.rfl

@[simp] theorem ends_throw (f : Failure) (s : σ) (Q : Except Failure α → σ → Prop) :
    Ends (throw f) s Q ↔ Q (.error f) s := Iff.rfl

@[simp] theorem ends_fail (e : Error) (s : σ) (Q : Except Failure α → σ → Prop) :
    Ends (fail e) s Q ↔ Q (.error (.error e)) s := Iff.rfl

@[simp] theorem ends_get (s : σ) (Q : Except Failure σ → σ → Prop) :
    Ends get s Q ↔ Q (.ok s) s := Iff.rfl

@[simp] theorem ends_modify (f : σ → σ) (s : σ) (Q : Except Failure PUnit → σ → Prop) :
    Ends (modify f) s Q ↔ Q (.ok ()) (f s) := Iff.rfl

@[simp] theorem ends_log [Console σ] (level : Level) (message : String) (s : σ)
    (Q : Except Failure Unit → σ → Prop) :
    Ends (log level message) s Q ↔ Q (.ok ()) (Console.tell (.logged level message) s) := Iff.rfl

@[simp] theorem ends_conclude (r : Except Failure α) (s : σ) (Q : Except Failure α → σ → Prop) :
    Ends (conclude r) s Q ↔ Q r s := by
  cases r <;> rfl

/-- A failure of the first part is a failure of the whole. -/
@[simp] theorem ends_bind (act : Action σ α) (f : α → Action σ β) (s : σ)
    (Q : Except Failure β → σ → Prop) :
    Ends (act >>= f) s Q ↔ act.Ends s fun r s =>
      match r with
      | .ok a => (f a).Ends s Q
      | .error e => Q (.error e) s := by
  show Ends (EStateM.bind act f) s Q ↔ _
  unfold Ends EStateM.bind
  rcases act s with ⟨a, s⟩ | ⟨e, s⟩ <;> rfl

/-- What is made of the value does not change the final state. -/
theorem finalState_bind_pure (act : Action σ α) (f : α → β) (s : σ) :
    finalState (act >>= fun a => pure (f a)) s = act.finalState s := by
  show finalState (EStateM.bind act _) s = _
  unfold finalState EStateM.bind
  rcases act s with ⟨a, s⟩ | ⟨e, s⟩ <;> rfl

@[simp] theorem ends_ite {p : Prop} [Decidable p] (x y : Action σ α) (s : σ)
    (Q : Except Failure α → σ → Prop) :
    Ends (if p then x else y) s Q ↔ if p then x.Ends s Q else y.Ends s Q := by
  split <;> rfl

/-! ## Catching and cleaning up -/

@[simp] theorem ends_attempt (act : Action σ α) (s : σ)
    (Q : Except Failure (Except Failure α) → σ → Prop) :
    Ends (attempt act) s Q ↔ act.Ends s fun r s => Q (.ok r) s := by
  unfold Ends attempt
  rcases act s with ⟨a, s⟩ | ⟨f, s⟩ <;> rfl

@[simp] theorem ends_recover (act : Action σ α) (s : σ)
    (Q : Except Failure (Except Error α) → σ → Prop) :
    Ends (recover act) s Q ↔ act.Ends s fun r s =>
      match r with
      | .ok a => Q (.ok (.ok a)) s
      | .error (.error e) => Q (.ok (.error e)) s
      | .error (.panic p) => Q (.error (.panic p)) s := by
  unfold Ends recover
  rcases act s with _ | ⟨_ | _, _⟩ <;> rfl

@[simp] theorem ends_ensuring (act : Action σ α) (cleanup : Action σ Unit) (s : σ)
    (Q : Except Failure α → σ → Prop) :
    Ends (ensuring act cleanup) s Q ↔ act.Ends s fun r s => cleanup.Ends s fun c s =>
      match c with
      | .ok _ => Q r s
      | .error f => Q (.error f) s := by
  simp only [ensuring, ends_bind, ends_attempt, ends_conclude]
  rfl

@[simp] theorem ends_onFailure (act : Action σ α) (cleanup : Action σ Unit) (s : σ)
    (Q : Except Failure α → σ → Prop) :
    Ends (onFailure act cleanup) s Q ↔ act.Ends s fun r s =>
      match r with
      | .ok a => Q (.ok a) s
      | .error f => cleanup.Ends s fun c s =>
        match c with
        | .ok _ => Q (.error f) s
        | .error f => Q (.error f) s := by
  simp only [onFailure, ends_bind, ends_attempt]
  unfold Ends
  rcases act s with ⟨a, s⟩ | ⟨f, s⟩
  · rfl
  · show Ends (cleanup >>= fun _ => throw f) s Q ↔ _
    rw [ends_bind]
    rfl

@[simp] theorem ends_onFirst (act : Action σ α) (s : σ × τ) (Q : Except Failure α → σ × τ → Prop) :
    Ends (onFirst act) s Q ↔ act.Ends s.1 fun r s' => Q r (s', s.2) := by
  rcases s with ⟨s, t⟩
  unfold Ends onFirst
  dsimp only
  rcases act s with ⟨a, s⟩ | ⟨f, s⟩ <;> rfl

/-! ## Answers of calls -/

@[simp] theorem ends_orFatal (call : String) (act : Action σ (Except ResultCode α)) (s : σ)
    (Q : Except Failure α → σ → Prop) :
    Ends (orFatal call act) s Q ↔ act.Ends s fun r s =>
      match r with
      | .ok (.ok a) => Q (.ok a) s
      | .ok (.error code) => Q (.error (.error (.configuration (.callFailed call code)))) s
      | .error f => Q (.error f) s := by
  rw [orFatal, ends_bind]
  apply ends_congr
  rintro (f | code | a) s <;> rfl

@[simp] theorem ends_orOperational (call : String) (act : Action σ (Except ResultCode α)) (s : σ)
    (Q : Except Failure α → σ → Prop) :
    Ends (orOperational call act) s Q ↔ act.Ends s fun r s =>
      match r with
      | .ok (.ok a) => Q (.ok a) s
      | .ok (.error code) => Q (.error (.error (.vulkan call code))) s
      | .error f => Q (.error f) s := by
  rw [orOperational, ends_bind]
  apply ends_congr
  rintro (f | code | a) s <;> rfl

end CopyBench.Action
