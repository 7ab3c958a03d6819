import CopyBench.Proofs.Sample.Summary
import CopyBench.Proofs.Suite.Trial
import CopyBench.Proofs.Text.Ascii
import CopyBench.Suite.Scripted
import Mathlib.Data.List.TakeWhile
/-!
# What a whole run reports

With scripted backends a run of a suite is known from the scripts alone: which backends are asked for what,
what is reported of them, and where the suite stands in the end.
-/

namespace CopyBench

open CopyBench.Action

/-- The elements up to the first one that stops, with that one. -/
def throughFirst {γ : Type} (stops : γ → Bool) (l : List γ) : List γ :=
  l.takeWhile (!stops ·) ++ (l.find? stops).toList

section ThroughFirst

variable {γ : Type} {stops : γ → Bool} {a : γ} {l : List γ}

theorem throughFirst_cons_pos (h : stops a = true) : throughFirst stops (a :: l) = [a] := by
  simp [throughFirst, h]

theorem throughFirst_cons_neg (h : stops a = false) : throughFirst stops (a :: l) = a :: throughFirst stops l := by
  simp [throughFirst, h]

theorem throughFirst_eq_self (h : ∀ a ∈ l, stops a = false) : throughFirst stops l = l := by
  induction l with
  | nil => rfl
  | cons a l ih =>
    rw [throughFirst_cons_neg (h a List.mem_cons_self), ih fun b hb => h b (List.mem_cons_of_mem a hb)]

/-- What stops in the first part keeps the second from being reached. -/
theorem throughFirst_append (l l' : List γ) : throughFirst stops (l ++ l') =
    if l.any stops then throughFirst stops l else l ++ throughFirst stops l' := by
  induction l with
  | nil => rfl
  | cons a l ih =>
    cases h : stops a with
    | true => simp [throughFirst_cons_pos h, h]
    | false =>
      rw [List.cons_append, throughFirst_cons_neg h, throughFirst_cons_neg h, ih, List.any_cons, h, Bool.false_or]
      split <;> rfl

end ThroughFirst

/-! ## Trials of scripted backends -/

namespace ScriptedBackend

variable (b : ScriptedBackend) (bytes : UInt64) (noop : Bool)

/-- What the next setup answers. -/
def answer : Except Error Bool := b.setups.headD (.ok true)

/-- What the next run plays. -/
def script : ScriptedRun := b.runs.headD {}

/-- The error that the next setup, or the run after it, ends with. -/
def raised : Option Error :=
  match b.answer with
  | .ok true => b.script.error
  | .ok false => none
  | .error e => some e

/-- The fatal error of the next trial. -/
def fatal : Option Error := if noop then none else b.raised.filter (·.isFatal)

/-- How the next trial comes out when it has no fatal error. -/
def result : TestResult :=
  if noop then .nooped
  else if b.raised.isSome then .error
  else if b.answer matches .ok true then .success
  else .deviceNotCapable

/-- How the next trial comes out, or the fatal error it ends with. -/
def outcome : Except Error TestResult :=
  match b.fatal noop with
  | some e => .error e
  | none => .ok (b.result noop)

/-- What is measured in the next trial. -/
def statistics : Statistics where
  tag := some ⟨.gigabytesPerSecond, b.clock⟩
  samples :=
    if noop then []
    else match b.answer with
      | .ok true => b.script.samples.map fun (elapsed, _) => Measure.gigabytesPerSecond.sample elapsed bytes
      | _ => []

/-- What the backend is asked for in the next trial. -/
def stages : List Stage :=
  if noop then [.measurement]
  else match b.answer with
    | .ok true => [.measurement, .setup, .run, .teardown]
    | .ok false => [.measurement, .setup]
    | .error e => if e.isFatal then [.measurement, .setup] else [.measurement, .setup, .teardown]

/-- What the next trial enters into the journal. -/
def entries : List JournalEntry := (b.stages noop).map (⟨b.name, ·⟩)

theorem ends_nextSetup (j : Journal) (Q : Except Failure (Except Error Bool) → Journal × ScriptedBackend → Prop) :
    Ends nextSetup (j, b) Q ↔ Q (.ok b.answer) (j, { b with setups := b.setups.tail }) := by
  obtain ⟨name, clock, _ | ⟨answer, setups⟩, runs⟩ := b <;> exact Iff.rfl

theorem ends_nextRun (j : Journal) (Q : Except Failure ScriptedRun → Journal × ScriptedBackend → Prop) :
    Ends nextRun (j, b) Q ↔ Q (.ok b.script) (j, { b with runs := b.runs.tail }) := by
  obtain ⟨name, clock, setups, _ | ⟨run, runs⟩⟩ := b <;> exact Iff.rfl

/-- Samples are added one after another; the tag that is there stays, and the journal as well. -/
theorem ends_pushSamples (tag : Tag) (samples : List (Duration × Clock)) :
    ∀ (s : Journal × ScriptedBackend) (before : List Binary64),
      (pushSamples bytes samples).Ends (s, ⟨some tag, before⟩) fun r s' => r = .ok () ∧
        s'.1.1.entries = s.1.entries ∧ s'.1.2 = s.2 ∧ s'.2 = ⟨some tag,
          before ++ samples.map fun (elapsed, _) => Measure.gigabytesPerSecond.sample elapsed bytes⟩ := by
  induction samples with
  | nil => exact fun s before => ⟨rfl, rfl, rfl, by rw [List.map_nil, List.append_nil]⟩
  | cons sample samples ih =>
    intro s before
    obtain ⟨elapsed, clock⟩ := sample
    have pushed : (Statistics.pushSample elapsed bytes ⟨.gigabytesPerSecond, clock⟩).Ends (s, ⟨some tag, before⟩)
        fun r s' => r = .ok () ∧ s'.1.1.entries = s.1.entries ∧ s'.1.2 = s.2 ∧
          s'.2 = ⟨some tag, before ++ [Measure.gigabytesPerSecond.sample elapsed bytes]⟩ := by
      refine (Statistics.ends_pushSample_push ..).mono fun r s' h => ?_
      obtain ⟨rfl, pushed, told⟩ := h
      obtain same | ⟨note, same⟩ := told
      · rw [same]
        exact ⟨rfl, rfl, rfl, pushed⟩
      · rw [same]
        exact ⟨rfl, rfl, rfl, pushed⟩
    rw [pushSamples, ends_bind]
    refine pushed.mono fun r s₁ h => ?_
    obtain ⟨s₁, statistics⟩ := s₁
    obtain ⟨rfl, hentries, hbackend, rfl⟩ := h
    refine (ih s₁ _).mono fun r s₂ h => ?_
    obtain ⟨hr, hentries', hbackend', hstatistics⟩ := h
    refine ⟨hr, hentries'.trans hentries, hbackend'.trans hbackend, ?_⟩
    rw [hstatistics, List.append_assoc, List.map_cons]
    rfl

theorem ends_setup (j : Journal) (Q : Except Failure Bool → Journal × ScriptedBackend → Prop) :
    (backend.setup bytes).Ends (j, b) Q ↔
      Q (match b.answer with
        | .ok capable => .ok capable
        | .error e => .error (.error e))
        ({ j with entries := j.entries.push ⟨b.name, .setup⟩ }, { b with setups := b.setups.tail }) := by
  dsimp only [backend]
  rw [ends_bind, ends_modify]
  dsimp only [enter]
  rw [ends_bind, ends_nextSetup]
  dsimp only
  cases b.answer <;> exact Iff.rfl

/-- A run plays its script: the samples, then the error. -/
theorem ends_run (j : Journal) (tag : Tag) :
    (backend.run bytes).Ends ((j, b), ⟨some tag, []⟩) fun r s =>
      r = (match b.script.error with
        | none => .ok ()
        | some e => .error (.error e)) ∧
      s.1.1.entries = j.entries.push ⟨b.name, .run⟩ ∧ s.1.2.name = b.name ∧
      s.2 = ⟨some tag,
        b.script.samples.map fun (elapsed, _) => Measure.gigabytesPerSecond.sample elapsed bytes⟩ := by
  dsimp only [backend]
  rw [ends_bind, ends_onFirst, ends_modify]
  dsimp only [enter]
  rw [ends_bind, ends_onFirst, ends_nextRun]
  dsimp only
  rw [ends_bind]
  refine (ends_pushSamples bytes tag b.script.samples _ []).mono fun r s h => ?_
  obtain ⟨rfl, hentries, hbackend, hstatistics⟩ := h
  dsimp only
  cases b.script.error with
  | none => exact ⟨rfl, hentries, by rw [hbackend], hstatistics⟩
  | some e => exact ⟨rfl, hentries, by rw [hbackend], hstatistics⟩

/-- A trial of a scripted backend goes by the script. -/
theorem ends_trial (j : Journal) :
    (backend.trial b bytes noop).Ends j fun r j' =>
      r.map (·.2) = .ok (b.statistics bytes noop, b.outcome noop) ∧
        j'.entries.toList = j.entries.toList ++ b.entries noop := by
  rw [Backend.ends_trial]
  cases noop with
  | true =>
    rw [Backend.ends_execute_dry]
    exact ⟨rfl, Array.toList_push⟩
  | false =>
    rw [Backend.ends_execute]
    change (backend.setup bytes).Ends ({ j with entries := j.entries.push ⟨b.name, .measurement⟩ }, b) _
    rw [ends_setup]
    unfold outcome fatal result statistics entries stages raised
    rcases b.answer with e | _ | _
    · dsimp only
      split
      case isTrue fatal => simp [fatal, Option.filter, Except.map, Statistics.retag, backend]
      case isFalse mild =>
        simp [mild, Option.filter, Except.map, Statistics.retag, backend, Backend.complained, enter, Console.tell]
    · exact ⟨rfl, by simp⟩
    · dsimp only
      refine (ends_run _ bytes _ _).mono fun r s h => ?_
      obtain ⟨⟨j', b'⟩, statistics⟩ := s
      obtain ⟨rfl, hentries, hname, rfl⟩ := h
      -- A run leaves its samples whether it then fails or not.
      have hname : b'.name = b.name := hname
      change j'.entries = Array.push (Array.push _ _) _ at hentries
      have closed : (enter .teardown (j', b')).1.entries.toList =
          j.entries.toList ++ [Stage.measurement, .setup, .run, .teardown].map (⟨b.name, ·⟩) := by
        simp [enter, hentries, hname]
      have run : script { b with setups := b.setups.tail } = b.script := rfl
      rw [run]
      rcases b.script.error with _ | e
      · exact ⟨rfl, closed⟩
      · dsimp only
        split
        case isTrue fatal =>
          refine ⟨?_, closed⟩
          simp [fatal, Option.filter, Except.map, backend]
        case isFalse mild =>
          refine ⟨?_, closed⟩
          simp [mild, Option.filter, Except.map, Backend.complained, Console.tell, backend]

end ScriptedBackend

open ScriptedBackend (backend)

/-! ## Runs of suites -/

namespace TestCase

/-- The fatal error that stops the trials of a case. -/
def fatal (case : TestCase ScriptedBackend UInt64) (noop : Bool) : Option Error :=
  case.backends.findSome? (·.fatal noop)

/-- The reports of a case that is not stopped. -/
def reports (case : TestCase ScriptedBackend UInt64) (noop : Bool) : List CaseReport :=
  case.backends.map fun b => ⟨case.name, backend.api b, b.result noop, b.statistics case.arguments noop⟩

/-- How the trials of a case come out together. -/
def outcome (case : TestCase ScriptedBackend UInt64) (noop : Bool) : Except Error (List CaseReport) :=
  match case.fatal noop with
  | some e => .error e
  | none => .ok (case.reports noop)

theorem isSome_fatal (case : TestCase ScriptedBackend UInt64) (noop : Bool) :
    (case.fatal noop).isSome = case.backends.any fun b => (b.fatal noop).isSome := by
  rw [fatal, List.isSome_findSome?]

section Cons

variable {name : String} {bytes : UInt64} {noop : Bool} {b : ScriptedBackend} {rest : List ScriptedBackend}

theorem outcome_cons_stopped {e : Error} (h : b.fatal noop = some e) :
    outcome { name, arguments := bytes, backends := b :: rest } noop = .error e := by
  rw [outcome, fatal, List.findSome?_cons, h]

theorem outcome_cons_passed (h : b.fatal noop = none) :
    outcome { name, arguments := bytes, backends := b :: rest } noop =
      (outcome { name, arguments := bytes, backends := rest } noop).map
        (⟨name, backend.api b, b.result noop, b.statistics bytes noop⟩ :: ·) := by
  rw [outcome, fatal, List.findSome?_cons, h]
  dsimp only
  unfold outcome fatal
  dsimp only
  cases rest.findSome? (·.fatal noop) <;> rfl

end Cons

/-- The backends of a case are tried through the first one with a fatal error. -/
theorem ends_tryBackends_scripted (name : String) (bytes : UInt64) (noop : Bool) :
    ∀ (backends : List ScriptedBackend) (j : Journal),
      (tryBackends backend name bytes noop backends).Ends j fun r j' =>
        r.map (·.2) = .ok (outcome { name, arguments := bytes, backends } noop) ∧
          j'.entries.toList = j.entries.toList ++
            (throughFirst (fun b => (b.fatal noop).isSome) backends).flatMap (·.entries noop)
  | [], j => ⟨rfl, (List.append_nil _).symm⟩
  | b :: rest, j => by
    rw [ends_tryBackends_cons]
    refine (b.ends_trial bytes noop _).mono fun r j₁ h => ?_
    obtain ⟨hr, hentries⟩ := h
    change j₁.entries.toList = j.entries.toList ++ _ at hentries
    rcases r with f | ⟨b', statistics, tried⟩
    · cases hr
    obtain ⟨rfl, rfl⟩ := Prod.mk.inj (Except.ok.inj hr)
    -- A fatal error ends the list here, and the backends after it are not tried.
    cases hfatal : b.fatal noop with
    | some e =>
      have stopped : b.outcome noop = .error e := by rw [ScriptedBackend.outcome, hfatal]
      rw [stopped, outcome_cons_stopped hfatal, throughFirst_cons_pos (by rw [hfatal]; rfl), List.flatMap_singleton]
      exact ⟨rfl, hentries⟩
    | none =>
      have passed : b.outcome noop = .ok (b.result noop) := by rw [ScriptedBackend.outcome, hfatal]
      rw [passed, outcome_cons_passed hfatal, throughFirst_cons_neg (by rw [hfatal]; rfl), List.flatMap_cons,
        ← List.append_assoc, ← hentries]
      refine (ends_tryBackends_scripted name bytes noop rest j₁).mono fun r j₂ h => ?_
      obtain ⟨hr, hentries'⟩ := h
      rcases r with f | ⟨rest', tried⟩
      · cases hr
      cases Except.ok.inj hr
      exact ⟨rfl, hentries'⟩

theorem ends_run_scripted (case : TestCase ScriptedBackend UInt64) (noop : Bool) (j : Journal) :
    (case.run backend noop).Ends j fun r j' =>
      r.map (fun (after, tried) => (after.name, tried)) = .ok (case.name, case.outcome noop) ∧
        j'.entries.toList = j.entries.toList ++
          (throughFirst (fun b => (b.fatal noop).isSome) case.backends).flatMap (·.entries noop) := by
  rw [ends_run]
  refine (ends_tryBackends_scripted case.name case.arguments noop case.backends j).mono fun r j' h => ?_
  obtain ⟨hr, hentries⟩ := h
  rcases r with f | ⟨backends, tried⟩
  · cases hr
  cases Except.ok.inj hr
  exact ⟨rfl, hentries⟩

end TestCase

namespace Suite

/-- The fatal error that stops a run over cases, with the name of its case. -/
def stopOf (noop : Bool) (cases : List (TestCase ScriptedBackend UInt64)) : Option (String × Error) :=
  cases.findSome? fun case => (case.fatal noop).map (case.name, ·)

/-- The reports of the cases before the one that stops a run. -/
def reportsOf (noop : Bool) (cases : List (TestCase ScriptedBackend UInt64)) : List CaseReport :=
  (cases.takeWhile fun case => (case.fatal noop).isNone).flatMap (·.reports noop)

/-- What a run over cases enters into the journal: all that the backends of the cases are asked for, through
the first one with a fatal error. -/
def entriesOf (noop : Bool) (cases : List (TestCase ScriptedBackend UInt64)) : List JournalEntry :=
  (throughFirst (fun b => (b.fatal noop).isSome) (cases.flatMap (·.backends))).flatMap (·.entries noop)

section Cons

variable {noop : Bool} {case : TestCase ScriptedBackend UInt64} {rest : List (TestCase ScriptedBackend UInt64)}

theorem stopOf_cons (noop : Bool) (case : TestCase ScriptedBackend UInt64)
    (rest : List (TestCase ScriptedBackend UInt64)) : stopOf noop (case :: rest) =
      match case.fatal noop with
      | some e => some (case.name, e)
      | none => stopOf noop rest := by
  rw [stopOf, List.findSome?_cons]
  cases case.fatal noop <;> rfl

theorem reportsOf_cons (noop : Bool) (case : TestCase ScriptedBackend UInt64)
    (rest : List (TestCase ScriptedBackend UInt64)) : reportsOf noop (case :: rest) =
      match case.fatal noop with
      | some _ => []
      | none => case.reports noop ++ reportsOf noop rest := by
  rw [reportsOf, List.takeWhile_cons]
  cases case.fatal noop <;> rfl

theorem entriesOf_cons_stopped (h : (case.fatal noop).isSome = true) :
    entriesOf noop (case :: rest) =
      (throughFirst (fun b => (b.fatal noop).isSome) case.backends).flatMap (·.entries noop) := by
  rw [entriesOf, List.flatMap_cons, throughFirst_append, ← case.isSome_fatal, if_pos h]

theorem entriesOf_cons_passed (h : (case.fatal noop).isSome = false) :
    entriesOf noop (case :: rest) =
      (throughFirst (fun b => (b.fatal noop).isSome) case.backends).flatMap (·.entries noop) ++
        entriesOf noop rest := by
  have none : ∀ b ∈ case.backends, (b.fatal noop).isSome = false := by
    rw [case.isSome_fatal, List.any_eq_false] at h
    exact fun b hb => Bool.eq_false_iff.2 (h b hb)
  rw [entriesOf, List.flatMap_cons, throughFirst_append, ← case.isSome_fatal, h, if_neg Bool.false_ne_true,
    throughFirst_eq_self none, List.flatMap_append]
  rfl

end Cons

/-- The selected cases are run through the first one with a fatal error. -/
theorem ends_runCases_scripted (filter : Option String) (noop : Bool) :
    ∀ (cases : List (TestCase ScriptedBackend UInt64)) (j : Journal),
      (runCases backend filter noop cases).Ends j fun r j' =>
        r.map (·.2) = .ok (reportsOf noop (cases.filter (·.selectedBy filter)),
          stopOf noop (cases.filter (·.selectedBy filter))) ∧
        j'.entries.toList = j.entries.toList ++ entriesOf noop (cases.filter (·.selectedBy filter))
  | [], j => ⟨rfl, (List.append_nil _).symm⟩
  | case :: rest, j => by
    rw [ends_runCases_cons, List.filter_cons]
    split
    case isTrue selected =>
      refine (case.ends_run_scripted noop j).mono fun r j₁ h => ?_
      obtain ⟨hr, hentries⟩ := h
      rcases r with f | ⟨after, tried⟩
      · cases hr
      obtain ⟨hname, rfl⟩ := Prod.mk.inj (Except.ok.inj hr)
      rw [stopOf_cons, reportsOf_cons, TestCase.outcome]
      cases hfatal : case.fatal noop with
      | some e =>
        rw [entriesOf_cons_stopped (by rw [hfatal]; rfl)]
        exact ⟨by rw [Except.map, hname], hentries⟩
      | none =>
        rw [entriesOf_cons_passed (by rw [hfatal]; rfl), ← List.append_assoc, ← hentries]
        refine (ends_runCases_scripted filter noop rest j₁).mono fun r j₂ h => ?_
        obtain ⟨hr, hentries'⟩ := h
        rcases r with f | ⟨rest', more, stop⟩
        · cases hr
        cases Except.ok.inj hr
        exact ⟨rfl, hentries'⟩
    case isFalse passed =>
      refine (ends_runCases_scripted filter noop rest j).mono fun r j' h => ?_
      rcases r with f | ⟨rest', more, stop⟩ <;> exact h

end Suite

/-! ## Selection -/

namespace TestCase

variable {σ β α : Type}

/-- A filter selects a case when it spells its name, and no filter selects every case. -/
theorem selectedBy_iff {case : TestCase β α} {filter : Option String} :
    case.selectedBy filter = true ↔ ∀ name ∈ filter, Text.Spells case.name name := by
  cases filter with
  | none => exact iff_of_true rfl nofun
  | some name =>
    refine Text.sameUpToCase_iff.trans ⟨?_, fun spells => spells name rfl⟩
    rintro spells _ ⟨⟩
    exact spells

theorem filter_selectedBy (cases : List (TestCase β α)) (filter : Option String) :
    cases.filter (·.selectedBy filter) = cases.filter fun case => ∀ name ∈ filter, Text.Spells case.name name :=
  List.filter_congr fun _ _ => Bool.eq_iff_iff.2 (selectedBy_iff.trans (decide_eq_true_iff ..).symm)

/-! ## Registration -/

/-- For each interface the backend that was added last, in the order in which these were added. -/
def lastPerApi (impl : Backend σ β α) : List β → List β
  | [] => []
  | b :: later => if later.any (impl.api · = impl.api b) then lastPerApi impl later else b :: lastPerApi impl later

section Adding

variable [Console σ] (impl : Backend σ β α) {I : σ → Prop} (told : ∀ note env, I env → I (Console.tell note env))
include told

theorem ends_withBackend (case : TestCase β α) (b : β) {env : σ} (h : I env) :
    (withBackend impl case b).Ends env fun r env =>
      r = .ok ⟨case.name, case.arguments, case.backends.filter (impl.api · ≠ impl.api b) ++ [b]⟩ ∧ I env := by
  rw [withBackend]
  dsimp only
  rw [ends_ite]
  split
  · exact ⟨rfl, told _ _ h⟩
  · exact ⟨rfl, h⟩

/-- Adding backends keeps the last one for each interface, and does nothing else but warn. -/
theorem ends_withBackends : ∀ (backends : List β) (case : TestCase β α) {env : σ}, I env →
    (withBackends impl backends case).Ends env fun r env =>
      r = .ok ⟨case.name, case.arguments,
        case.backends.filter (fun old => !backends.any (impl.api · = impl.api old)) ++
          lastPerApi impl backends⟩ ∧ I env
  | [], case, env, h => by
    have kept : case.backends.filter (fun old => !([] : List β).any (impl.api · = impl.api old)) = case.backends :=
      List.filter_eq_self.2 fun _ _ => rfl
    rw [kept, lastPerApi, List.append_nil]
    exact ⟨rfl, h⟩
  | b :: rest, case, env, h => by
    rw [withBackends, ends_bind]
    refine (ends_withBackend impl told case b h).mono fun r env h => ?_
    obtain ⟨rfl, h⟩ := h
    refine (ends_withBackends rest _ h).mono fun r env h => ?_
    obtain ⟨rfl, h⟩ := h
    -- What was there before survives the first backend and all later ones.
    have kept : (case.backends.filter (impl.api · ≠ impl.api b)).filter
          (fun old => !rest.any (impl.api · = impl.api old)) =
        case.backends.filter (fun old => !(b :: rest).any (impl.api · = impl.api old)) := by
      rw [List.filter_filter]
      refine List.filter_congr fun old _ => ?_
      rw [List.any_cons, Bool.not_or, Bool.and_comm, ← decide_not]
    have last : [b].filter (fun old => !rest.any (impl.api · = impl.api old)) ++ lastPerApi impl rest =
        lastPerApi impl (b :: rest) := by
      rw [lastPerApi, List.filter_cons, List.filter_nil]
      cases rest.any (impl.api · = impl.api b) <;> rfl
    refine ⟨?_, h⟩
    rw [List.filter_append, kept, List.append_assoc, last]

end Adding

end TestCase

/-- A case as it is registered: its backends are added one after another. -/
structure Registration where
  name : String
  bytes : UInt64
  backends : List ScriptedBackend

namespace Registration

/-- The case that is registered, with the last backend for each interface. -/
def case (r : Registration) : TestCase ScriptedBackend UInt64 where
  name := r.name
  arguments := r.bytes
  backends := TestCase.lastPerApi backend r.backends

/-- Registers a case. -/
def register (r : Registration) : Action Journal (TestCase ScriptedBackend UInt64) :=
  TestCase.withBackends backend r.backends { name := r.name, arguments := r.bytes }

/-- Registers cases and runs them as a suite. -/
def runAll (registrations : List Registration) (filter : Option String) (noop : Bool) :
    Action Journal (Suite ScriptedBackend UInt64) := do
  let cases ← registrations.mapM register
  Suite.run backend { cases, filter, noop }

theorem ends_registerAll : ∀ (registrations : List Registration) (j : Journal),
    Ends (registrations.mapM register) j fun r j' =>
      r = .ok (registrations.map (·.case)) ∧ j'.entries = j.entries
  | [], _ => ⟨rfl, rfl⟩
  | registration :: rest, j => by
    rw [List.mapM_cons, ends_bind]
    refine (TestCase.ends_withBackends backend (I := fun j' => j'.entries = j.entries) (fun _ _ h => h)
      registration.backends { name := registration.name, arguments := registration.bytes } rfl).mono fun r j₁ h => ?_
    obtain ⟨rfl, h⟩ := h
    dsimp only
    rw [ends_bind]
    refine (ends_registerAll rest j₁).mono fun r j₂ h' => ?_
    obtain ⟨rfl, h'⟩ := h'
    exact ⟨rfl, h'.trans h⟩

end Registration

namespace Suite

theorem entries_warned (after : Suite ScriptedBackend UInt64) (j : Journal) :
    (after.warned j).entries = j.entries := by
  unfold warned
  split
  · split <;> rfl
  · rfl

theorem fatal_dry (case : TestCase ScriptedBackend UInt64) : case.fatal true = none :=
  List.findSome?_eq_none_iff.2 fun _ _ => rfl

theorem stopOf_dry (cases : List (TestCase ScriptedBackend UInt64)) : stopOf true cases = none :=
  List.findSome?_eq_none_iff.2 fun case _ => by rw [fatal_dry]; rfl

/-- A dry run reports every backend of its cases, with the tag of its samples and no sample. -/
theorem reportsOf_dry (cases : List (TestCase ScriptedBackend UInt64)) :
    reportsOf true cases = cases.flatMap fun case => case.backends.map fun b =>
      ⟨case.name, backend.api b, .nooped, some ⟨.gigabytesPerSecond, b.clock⟩, []⟩ := by
  rw [reportsOf, List.takeWhile_eq_self_iff.2 fun case _ => by rw [fatal_dry]; rfl]
  rfl

/-- A dry run asks every backend of its cases for its tag, and for nothing else. -/
theorem entriesOf_dry (cases : List (TestCase ScriptedBackend UInt64)) :
    entriesOf true cases = (cases.flatMap (·.backends)).map (⟨·.name, .measurement⟩) := by
  have passed (backends : List ScriptedBackend) :
      throughFirst (fun b => (b.fatal true).isSome) backends = backends :=
    throughFirst_eq_self fun _ _ => rfl
  rw [entriesOf, passed, List.map_eq_flatMap]
  rfl

/-- A whole run goes by the scripts: the cases that are spelled by the filter are selected, or all without one;
the last backend for each interface of every selected case is asked for what its trial needs, up to the first
one that has a fatal error; the cases before that one are reported; and the suite ends with that error, or
finished. A dry run has no errors, asks each backend for its tag alone, and reports it without samples. -/
theorem reported_of_run (registrations : List Registration) (filter : Option String) (noop : Bool) (j : Journal) :
    (Registration.runAll registrations filter noop).Ends j fun r j' =>
      let selected := (registrations.map (·.case)).filter fun case => ∀ name ∈ filter, Text.Spells case.name name
      ∃ suite, r = .ok suite ∧
        suite.reports = reportsOf noop selected ∧
        suite.state = stateAfter (stopOf noop selected) ∧
        j'.entries.toList = j.entries.toList ++ entriesOf noop selected ∧
        (noop = true →
          (suite.reports = selected.flatMap fun case => case.backends.map fun b =>
            ⟨case.name, backend.api b, .nooped, some ⟨.gigabytesPerSecond, b.clock⟩, []⟩) ∧
          suite.state = .finished ∧
          j'.entries.toList = j.entries.toList ++
            (selected.flatMap (·.backends)).map (⟨·.name, .measurement⟩)) := by
  rw [Registration.runAll, ends_bind, ← TestCase.filter_selectedBy]
  refine (Registration.ends_registerAll registrations j).mono fun r j₁ h => ?_
  obtain ⟨rfl, registered⟩ := h
  dsimp only
  rw [ends_run, ← registered]
  refine (ends_runCases_scripted filter noop _ j₁).mono fun r j₂ h => ?_
  obtain ⟨hr, hentries⟩ := h
  rcases r with f | ⟨cases, reports, stop⟩
  · cases hr
  cases Except.ok.inj hr
  refine ⟨_, rfl, List.nil_append _, rfl, ?_, ?_⟩
  · rw [entries_warned]
    exact hentries
  · rintro rfl
    rw [entries_warned, hentries, entriesOf_dry]
    refine ⟨?_, ?_, rfl⟩
    · rw [← reportsOf_dry]
      exact List.nil_append _
    · dsimp only
      rw [stopOf_dry]
      rfl

end Suite

end CopyBench
