import CopyBench.Proofs.Action
/-!
# Actions that match

Two actions match when, started in states that look the same, they end in states that look the same, and
with the same failure or with values that look the same. What looks the same is up to two relations. An
action that matches itself cannot tell apart what looks the same. The rules below follow the texts of the
actions, so what is left to show of two whole operations is what their single calls do.
-/

namespace CopyBench.Action

variable {σ τ α α' β β' : Type} {S : σ → σ → Prop} {R : α → α' → Prop} {R' : β → β' → Prop}

/-- Two outcomes agree: both are the same failure, or their values look the same. -/
inductive Agree (R : α → α' → Prop) : Except Failure α → Except Failure α' → Prop where
  | ok {a : α} {a' : α'} (value : R a a') : Agree R (.ok a) (.ok a')
  | error (f : Failure) : Agree R (.error f) (.error f)

/-- Two runs end alike: their outcomes agree, in states that look the same. -/
inductive EndAlike (S : σ → σ → Prop) (R : α → α' → Prop) :
    EStateM.Result Failure σ α → EStateM.Result Failure σ α' → Prop where
  | ok {a : α} {a' : α'} {s s' : σ} (value : R a a') (state : S s s') : EndAlike S R (.ok a s) (.ok a' s')
  | error (f : Failure) {s s' : σ} (state : S s s') : EndAlike S R (.error f s) (.error f s')

/-- Started in states that look the same, the actions end alike. -/
def Matches (S : σ → σ → Prop) (R : α → α' → Prop) (act : Action σ α) (act' : Action σ α') : Prop :=
  ∀ s s', S s s' → EndAlike S R (act s) (act' s')

/-- The action cannot tell states that look the same apart. -/
abbrev Blind (S : σ → σ → Prop) (act : Action σ α) : Prop := Matches S Eq act act

/-- The action leaves everything looking as it did. -/
def Idles (S : σ → σ → Prop) (act : Action σ Unit) : Prop := ∀ s, act.Ends s fun r s' => r = .ok () ∧ S s s'

namespace Matches

theorem pure {a : α} {a' : α'} (h : R a a') : Matches S R (pure a) (pure a') := fun _ _ hs => .ok h hs

theorem throw (f : Failure) : Matches S R (MonadExcept.throw f) (MonadExcept.throw f) := fun _ _ hs => .error f hs

theorem fail (e : Error) : Matches S R (Action.fail e) (Action.fail e) := throw (.error e)

theorem modify {f f' : σ → σ} (h : ∀ s s', S s s' → S (f s) (f' s')) :
    Matches S Eq (modify f) (modify f' : Action σ PUnit) := fun s s' hs => .ok rfl (h s s' hs)

theorem finalState {act : Action σ α} {act' : Action σ α'} (h : Matches S R act act') {s s' : σ} (hs : S s s') :
    S (act.finalState s) (act'.finalState s') := by
  unfold Action.finalState
  match act s, act' s', h s s' hs with
  | _, _, .ok _ state => exact state
  | _, _, .error _ state => exact state

theorem mono {R' : α → α' → Prop} {act : Action σ α} {act' : Action σ α'} (h : Matches S R act act')
    (weaker : ∀ a a', R a a' → R' a a') : Matches S R' act act' := fun s s' hs => by
  match act s, act' s', h s s' hs with
  | _, _, .ok value state => exact .ok (weaker _ _ value) state
  | _, _, .error f state => exact .error f state

theorem conclude {r : Except Failure α} {r' : Except Failure α'} (h : Agree R r r') :
    Matches S R (Action.conclude r) (Action.conclude r') := fun _ _ hs => by
  cases h with
  | ok h => exact .ok h hs
  | error f => exact .error f hs

theorem bind {act : Action σ α} {act' : Action σ α'} {f : α → Action σ β} {f' : α' → Action σ β'}
    (h : Matches S R act act') (h' : ∀ a a', R a a' → Matches S R' (f a) (f' a')) :
    Matches S R' (act >>= f) (act' >>= f') := fun s s' hs => by
  show EndAlike S R' (EStateM.bind act f s) (EStateM.bind act' f' s')
  unfold EStateM.bind
  match act s, act' s', h s s' hs with
  | _, _, .ok value state => exact h' _ _ value _ _ state
  | _, _, .error f state => exact .error f state

/-- What leaves everything looking as it did can be left out. -/
theorem idleLeft (equivalence : Equivalence S) {act : Action σ Unit} {f : Unit → Action σ α} {act' : Action σ α'}
    (idles : Idles S act) (h : Matches S R (f ()) act') : Matches S R (act >>= f) act' := fun s s' hs => by
  have ends := idles s
  unfold Ends at ends
  show EndAlike S R (EStateM.bind act f s) (act' s')
  unfold EStateM.bind
  match act s, ends with
  | .ok _ t, ⟨_, ht⟩ => exact h t s' (equivalence.trans (equivalence.symm ht) hs)
  | .error f t, ⟨failed, _⟩ => exact nomatch failed

theorem idleRight (equivalence : Equivalence S) {act : Action σ α} {act' : Action σ Unit} {f : Unit → Action σ α'}
    (idles : Idles S act') (h : Matches S R act (f ())) : Matches S R act (act' >>= f) := fun s s' hs => by
  have ends := idles s'
  unfold Ends at ends
  show EndAlike S R (act s) (EStateM.bind act' f s')
  unfold EStateM.bind
  match act' s', ends with
  | .ok _ t', ⟨_, ht⟩ => exact h s t' (equivalence.trans hs ht)
  | .error f t', ⟨failed, _⟩ => exact nomatch failed

/-- After the same value, only what follows has to match. -/
theorem andThen {act act' : Action σ α} {f : α → Action σ β} {f' : α → Action σ β'} (h : Matches S Eq act act')
    (h' : ∀ a, Matches S R' (f a) (f' a)) : Matches S R' (act >>= f) (act' >>= f') :=
  h.bind fun a _ same => same ▸ h' a

/-- What follows may look at the states. -/
theorem look {f : σ → Action σ β} {f' : σ → Action σ β'} (h : ∀ s s', S s s' → Matches S R' (f s) (f' s')) :
    Matches S R' (get >>= f) (get >>= f') := fun s s' hs => h s s' hs s s' hs

theorem ite {p : Prop} [Decidable p] {x y : Action σ α} {x' y' : Action σ α'} (hx : Matches S R x x')
    (hy : Matches S R y y') : Matches S R (if p then x else y) (if p then x' else y') := by
  split
  · exact hx
  · exact hy

theorem attempt {act : Action σ α} {act' : Action σ α'} (h : Matches S R act act') :
    Matches S (Agree R) (Action.attempt act) (Action.attempt act') := fun s s' hs => by
  unfold Action.attempt
  match act s, act' s', h s s' hs with
  | _, _, .ok value state => exact .ok (.ok value) state
  | _, _, .error f state => exact .ok (.error f) state

theorem onFailure {act : Action σ α} {act' : Action σ α'} {cleanup cleanup' : Action σ Unit}
    (h : Matches S R act act') (h' : Matches S Eq cleanup cleanup') :
    Matches S R (Action.onFailure act cleanup) (Action.onFailure act' cleanup') :=
  h.attempt.bind fun _ _ agree => by
    cases agree with
    | ok value => exact pure value
    | error f => exact h'.andThen fun _ => throw f

theorem ensuring {act : Action σ α} {act' : Action σ α'} {cleanup cleanup' : Action σ Unit}
    (h : Matches S R act act') (h' : Matches S Eq cleanup cleanup') :
    Matches S R (Action.ensuring act cleanup) (Action.ensuring act' cleanup') :=
  h.attempt.bind fun _ _ agree => h'.andThen fun _ => conclude agree

/-- An action on the first part of a pair does not look at the second. -/
theorem onFirst {act : Action σ α} {act' : Action σ α'} (h : Matches S R act act') :
    Matches (fun s s' : σ × τ => S s.1 s'.1 ∧ s.2 = s'.2) R (Action.onFirst act) (Action.onFirst act') := by
  rintro ⟨s, t⟩ ⟨s', _⟩ ⟨hs, rfl⟩
  unfold Action.onFirst
  dsimp only
  match act s, act' s', h s s' hs with
  | _, _, .ok value state => exact .ok value ⟨state, rfl⟩
  | _, _, .error f state => exact .error f ⟨state, rfl⟩

end Matches

/-! ## Actions that cannot tell states apart -/

namespace Blind

theorem pure (a : α) : Blind S (pure a) := Matches.pure rfl

theorem conclude (r : Except Failure α) : Blind S (Action.conclude r) := by
  cases r with
  | ok a => exact Matches.pure rfl
  | error f => exact .throw f

theorem log [Console σ] (told : ∀ note s s', S s s' → S (Console.tell note s) (Console.tell note s')) (level : Level)
    (message : String) : Blind S (log level message) := .modify (told _)

theorem attempt {act : Action σ α} (h : Blind S act) : Blind S (Action.attempt act) := fun s s' hs => by
  unfold Action.attempt
  match act s, act s', h s s' hs with
  | _, _, .ok rfl state => exact .ok rfl state
  | _, _, .error f state => exact .ok rfl state

theorem recover {act : Action σ α} (h : Blind S act) : Blind S (Action.recover act) := fun s s' hs => by
  unfold Action.recover
  match act s, act s', h s s' hs with
  | _, _, .ok rfl state => exact .ok rfl state
  | _, _, .error (.error _) state => exact .ok rfl state
  | _, _, .error (.panic p) state => exact .error (.panic p) state

theorem orFatal {act : Action σ (Except ResultCode α)} (h : Blind S act) (call : String) :
    Blind S (Action.orFatal call act) :=
  h.andThen fun r => by
    cases r with
    | ok a => exact pure a
    | error code => exact .fail _

theorem orOperational {act : Action σ (Except ResultCode α)} (h : Blind S act) (call : String) :
    Blind S (Action.orOperational call act) :=
  h.andThen fun r => by
    cases r with
    | ok a => exact pure a
    | error code => exact .fail _

end Blind

end CopyBench.Action
