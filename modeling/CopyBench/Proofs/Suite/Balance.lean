import CopyBench.Proofs.Bootstrap.Fixtures
import CopyBench.Proofs.Buffer.Runs
import CopyBench.Proofs.Pool.Ring
import CopyBench.Proofs.Pool.Steady
import CopyBench.Proofs.Sample.Summary
import CopyBench.Proofs.Suite.Teardown
import CopyBench.Proofs.Suite.Trial
/-!
# Trials leave nothing standing

A setup of the copy benchmark raises a context, the run uses it without touching what it stands on, and the
teardown razes that. Whatever fails on the way, what a trial raised is razed when the trial ends.
-/

namespace CopyBench

open CopyBench.Action
open Fixture (inOrder raising razing cycle)
open Machine (Alters Completes Quiet DeviceSteps)

variable {α : Type} {m₀ m m' : Machine} {p : CommandPool}

theorem Machine.Alters.balanced {fixtures : List Fixture} {pool : Handle} (sub : fixtures.Sublist (inOrder pool))
    (h : m.Alters (cycle fixtures) m') : Balanced (m.since m') := by
  obtain ⟨more, trace, altered⟩ := h
  rw [Machine.since_eq trace]
  exact ⟨pool, fixtures, sub, altered⟩

theorem Erected.balanced {fixtures : α → List Fixture} {f : Failure} (h : Erected inOrder fixtures m (.error f) m') :
    Balanced (m.since m') := by
  cases h with
  | razed pool sub alters => exact alters.balanced sub

/-! ## Runs -/

namespace Session

/-- The session has done nothing but work on buffers and command buffers, on the pool `p`. -/
structure Works (p : CommandPool) (m₀ : Machine) (s : Session) : Prop where
  keeps : p.Keeps s.pool
  steps : DeviceSteps m₀ s.machine

theorem upheld_works : Upheld (Works p m₀) where
  stable _ _ more h := ⟨h.keeps, h.steps.trans more.device⟩
  copies buffer source region wait s h :=
    (((upheld_keeps p).copies buffer source region wait s h.keeps).and
      ((upheld_steps m₀).copies buffer source region wait s h.steps)).mono fun _ _ h => ⟨h.1, h.2⟩

end Session

open Session (Works upheld_works)

namespace CopyBuffer

theorem works_release (buffer : StagedBuffer) :
    Maintains (Works p m₀) (liftM buffer.release : Action Session Unit) :=
  upheld_works.stable.lift fun _ => StagedBuffer.maintains_release buffer

theorem works_log (level : Level) (message : String) : Maintains (Works p m₀) (log level message) :=
  .log (fun note s hs => ⟨hs.keeps, hs.steps.tail (.aside (.told s.machine note))⟩) level message

theorem works_getPool : Maintains (Works p m₀) Session.getPool := fun _ hs => hs

theorem works_fillBoth (contents : Contents) (source destination : StagedBuffer) :
    Maintains (Works p m₀) (fillBoth contents source destination) := by
  refine (upheld_works.fill source contents true).bind fun filled => ?_
  obtain ⟨source, failure | _⟩ := filled
  · exact .pure _
  · exact (upheld_works.fill destination contents true).bind fun _ => .pure _

theorem works_pushSample (elapsed : Duration) (bytes : UInt64) (tag : Tag) :
    Maintains (fun s : Session × Statistics => Works p m₀ s.1) (Statistics.pushSample elapsed bytes tag) := by
  rintro ⟨s, statistics⟩ works
  refine (Statistics.ends_pushSample_push elapsed bytes tag s statistics).mono fun r s' h => ?_
  obtain ⟨-, -, told⟩ := h
  obtain same | ⟨note, same⟩ := told
  · rw [same]
    exact works
  · rw [same]
    exact ⟨works.keeps, works.steps.tail (.aside (.told s.machine note))⟩

theorem works_timedCopies (source destination : BoundBuffer) (arguments : CopyArguments) (timing : Timing) (n : Nat) :
    ∀ k, Maintains (fun s : Session × Statistics => Works p m₀ s.1)
      (timedCopies source destination arguments timing k n) := by
  induction n with
  | zero => exact fun _ => .pure _
  | succ n ih =>
    exact fun k => (upheld_works.copies destination source ⟨0, 0, arguments.size⟩ true).onFirst.bind fun _ =>
      (works_pushSample (timing k) arguments.size arguments.tag).bind fun _ => ih (k + 1)

/-- A measurement works on the pool that it is given, however it ends. -/
theorem works_measure (arguments : CopyArguments) (timing : Timing) :
    Maintains (fun s : Session × Statistics => Works p m₀ s.1) (measure arguments timing) := by
  refine (StagedBuffer.maintains_create upheld_works.stable _).onFirst.bind fun source => ?_
  refine ((StagedBuffer.maintains_create upheld_works.stable _).onFailure (works_release source)).onFirst.bind fun destination => ?_
  refine (works_fillBoth arguments.contents source destination).onFirst.bind fun filled => ?_
  obtain ⟨⟨source, destination⟩, filled⟩ := filled
  refine .ensuring ((Maintains.conclude filled).bind fun _ => ?_)
    ((works_release destination).bind fun _ => works_release source).onFirst
  refine (works_getPool.bind fun _ => works_log _ _).onFirst.bind fun _ => ?_
  refine (works_timedCopies source.main destination.main arguments timing arguments.iterations 0).bind fun _ => ?_
  exact (works_getPool.bind fun _ => works_log _ _).onFirst

end CopyBuffer

/-! ## Contexts that are up -/

namespace Context

/-- The later context is the earlier one, but for what goes on in its pool. -/
structure Keeps (context context' : Context) : Prop where
  messenger : context'.messenger = context.messenger
  pool : Option.Rel CommandPool.Keeps context.pool context'.pool

/-- The pool of the context, if it has one, is on a logical device. -/
def OnLogical (context : Context) : Prop := ∀ pool, context.pool = some pool → pool.OnLogical

variable {context context' : Context}

theorem Keeps.fixtures (h : context.Keeps context') : context'.fixtures = context.fixtures := by
  obtain ⟨messenger, pool⟩ := context
  obtain ⟨messenger', pool'⟩ := context'
  obtain ⟨rfl, kept⟩ := h
  cases kept with
  | none => rfl
  | some keeps => simp only [Context.fixtures, deviceFixtures, keeps.handle]

theorem Keeps.onLogical (h : context.Keeps context') (logical : context.OnLogical) : context'.OnLogical := by
  obtain ⟨messenger, pool⟩ := context
  obtain ⟨messenger', pool'⟩ := context'
  obtain ⟨rfl, kept⟩ := h
  cases kept with
  | none => exact nofun
  | @some pool pool' keeps =>
    rintro _ ⟨⟩
    obtain ⟨debugNames, route⟩ := logical pool rfl
    exact ⟨debugNames, keeps.device ▸ route⟩

end Context

namespace CopyBackend

variable {b : CopyBackend} {arguments : CopyArguments} {context : Context}

/-! ## Stages of a trial -/

/-- What the context of a backend stands on, if one is up. -/
def standing : Option Context → List Fixture
  | none => []
  | some context => context.fixtures

theorem ends_releaseContext_razes (context : Option Context) (m : Machine) (b : CopyBackend) :
    (releaseContext context).Ends (m, b) fun r s => r = .ok () ∧ s.2 = b ∧
      m.Alters (razing (standing context)) s.1 := by
  cases context with
  | none => exact ⟨rfl, rfl, .refl m⟩
  | some context =>
    rw [releaseContext, ends_onFirst]
    refine (context.completes_release m).mono fun r m' h => ?_
    obtain ⟨⟨_, rfl⟩, razes⟩ := h
    exact ⟨rfl, rfl, razes⟩

/-- What a setup leaves: a context is up in place of the one that was up before, or nothing new stands. -/
inductive Prepared (m : Machine) (b : CopyBackend) : Except Failure Bool → Machine × CopyBackend → Prop where
  | ready {m' : Machine} {context : Context} {pool : Handle} (logical : context.OnLogical)
      (sub : context.fixtures.Sublist (inOrder pool))
      (raises : m.Alters (raising context.fixtures ++ razing (standing b.context)) m') :
    Prepared m b (.ok true) (m', { b with context := some context })
  | spared {m' : Machine} (balanced : Balanced (m.since m')) : Prepared m b (.ok false) (m', b)
  | failed {f : Failure} {m' : Machine} (balanced : Balanced (m.since m')) : Prepared m b (.error f) (m', b)

theorem ends_setup_prepared (arguments : CopyArguments) (m : Machine) (b : CopyBackend) :
    (setup arguments).Ends (m, b) (Prepared m b) := by
  rw [setup, ends_bind, ends_get]
  dsimp only
  rw [ends_bind, ends_recover, ends_onFirst]
  refine ((Context.erects_create b.platform _ m).and (Context.readies_create b.platform _ m)).mono fun r m₁ h => ?_
  obtain ⟨erected, -, fresh⟩ := h
  rcases r with (e | cause) | context
  · -- Unless the configuration insists on a context, its lack only means that the device is not capable.
    dsimp only
    rw [ends_ite]
    split
    · exact .failed erected.balanced
    · exact .spared erected.balanced
  · exact .failed erected.balanced
  · dsimp only
    rw [ends_bind, ends_currentContext]
    dsimp only
    rw [ends_bind, ends_setContext]
    dsimp only
    -- A context that was up before is taken down once the new one stands.
    rw [ends_bind]
    refine (ends_releaseContext_razes b.context m₁ _).mono fun r s h => ?_
    obtain ⟨m₂, b₂⟩ := s
    obtain ⟨rfl, rfl, razes⟩ := h
    cases erected with
    | stands pool sub raises =>
      exact .ready (fun pool hpool => (fresh context rfl pool hpool).route) sub (raises.trans razes)

/-- A run uses the context that is up, and leaves what it stands on. -/
theorem ends_run_keeps (hcontext : b.context = some context) (statistics : Statistics) :
    (run arguments).Ends ((m, b), statistics) fun _ s => m.Alters [] s.1.1 ∧
      ∃ context', context.Keeps context' ∧ s.1.2 = { b with context := some context' } := by
  cases hpool : context.pool with
  | none =>
    rw [ends_run_bare hcontext hpool]
    exact ⟨.refl m, context, ⟨rfl, hpool ▸ .none⟩, by rw [← hcontext]⟩
  | some pool =>
    rw [ends_run_pool hcontext hpool]
    refine (CopyBuffer.works_measure arguments b.timing (⟨m, pool⟩, statistics) ⟨.refl pool, .refl⟩).mono
      fun r s works => ?_
    exact ⟨works.steps.alters, { context with pool := some s.1.pool }, ⟨rfl, hpool ▸ .some works.keeps⟩, rfl⟩

/-- Draining a pool on a logical device never breaks off, and leaves the pool standing. -/
theorem ends_drainPool_keeps {pool : CommandPool} (logical : pool.OnLogical) (m : Machine) :
    (drainPool pool).Ends m fun r m' => m.Alters [] m' ∧
      ∃ result pool', r = .ok (result, pool') ∧ pool.Keeps pool' := by
  have drained := (Session.steady_flushAll true ⟨m, pool⟩ logical).and
    ((Session.stays_flushAll pool.stable_keeps.shut true ⟨m, pool⟩ (.refl pool)).and
      (Session.maintains_flushAll true ⟨m, pool⟩ .refl))
  revert drained
  unfold Ends drainPool recover
  rcases Session.flushAll true ⟨m, pool⟩ with ⟨a, s⟩ | ⟨e | cause, s⟩
  · exact fun h => ⟨(Machine.Steps.device h.2.2).alters, _, _, rfl, h.2.1⟩
  · exact fun h => ⟨(Machine.Steps.device h.2.2).alters, _, _, rfl, h.2.1⟩
  · exact fun h => absurd rfl (h.1.2 cause)

/-- A teardown razes what the context stands on, whether or not its queue can be drained. -/
theorem ends_takeDown_razes (hcontext : b.context = some context) (logical : context.OnLogical) (m : Machine) :
    takeDown.Ends (m, b) fun _ s => s.2 = { b with context := none } ∧ m.Alters (razing context.fixtures) s.1 := by
  have released {context' : Context} (keeps : context.Keeps context') {m₁ : Machine} (still : m.Alters [] m₁) :
      Ends (do
        setContext none
        releaseContext (some context')) (m₁, b) fun _ s =>
          s.2 = { b with context := none } ∧ m.Alters (razing context.fixtures) s.1 := by
    rw [ends_bind, ends_setContext]
    dsimp only
    refine (ends_releaseContext_razes (some context') m₁ _).mono fun r s h => ?_
    obtain ⟨-, hb, razes⟩ := h
    exact ⟨hb, keeps.fixtures ▸ still.trans razes⟩
  rw [takeDown, ends_bind, ends_currentContext, hcontext]
  dsimp only
  cases hpool : context.pool with
  | none =>
    dsimp only
    rw [ends_bind, ends_pure]
    exact released ⟨rfl, hpool ▸ .none⟩ (.refl m)
  | some pool =>
    dsimp only
    rw [ends_bind, ends_onFirst]
    refine (ends_drainPool_keeps (logical pool hpool) m).mono fun r m₁ h => ?_
    obtain ⟨still, result, pool', rfl, keeps⟩ := h
    have stays : context.Keeps { context with pool := some pool' } := ⟨rfl, hpool ▸ .some keeps⟩
    cases result with
    | ok _ => exact released stays still
    | error e => exact released stays (still.trans (Machine.alters_told m₁ _))

/-- A backend without a context has nothing to take down. -/
theorem ends_takeDown_none (bare : b.context = none) (m : Machine)
    (Q : Except Failure Unit → Machine × CopyBackend → Prop) : takeDown.Ends (m, b) Q ↔ Q (.ok ()) (m, b) := by
  rw [takeDown, ends_bind, ends_currentContext, bare]
  exact Iff.rfl

/-! ## Trials -/

theorem balanced_since_self (m : Machine) : Balanced (m.since m) := by
  rw [Machine.since_eq (List.append_nil _).symm]
  exact balanced_nil

/-- The teardown after a run leaves nothing of what the setup raised. -/
theorem balanced_takeDown {pool : Handle} {context' : Context} (logical : context.OnLogical)
    (sub : context.fixtures.Sublist (inOrder pool)) (stands : m.Alters (raising context.fixtures) m')
    (keeps : context.Keeps context') (hcontext : b.context = some context') :
    (takeDown.finalState (m', b)).2 = { b with context := none } ∧
      Balanced (m.since (takeDown.finalState (m', b)).1) := by
  obtain ⟨hb, razes⟩ := ends_finalState.1 (ends_takeDown_razes hcontext (keeps.onLogical logical) m')
  rw [keeps.fixtures] at razes
  exact ⟨hb, (stands.trans razes).balanced sub⟩

/-- A trial of a backend without a context leaves it so, with nothing standing, unless its run panics. -/
theorem ends_execute_balanced (bare : b.context = none) (noop : Bool) (statistics : Statistics) :
    (backend.execute arguments noop).Ends ((m, b), statistics) fun r s =>
      (∀ cause, r ≠ .error (.panic cause)) → s.1.2 = b ∧ Balanced (m.since s.1.1) := by
  cases noop with
  | true =>
    rw [Backend.ends_execute_dry]
    exact fun _ => ⟨rfl, balanced_since_self m⟩
  | false =>
    rw [Backend.ends_execute]
    refine (ends_setup_prepared arguments m b).mono fun r s prepared => ?_
    cases prepared with
    | spared balanced => exact fun _ => ⟨rfl, balanced⟩
    | @failed f m' balanced =>
      rcases f with e | cause
      · -- There is nothing to take down after a setup that failed, whether or not that is tried.
        have down (m : Machine) : takeDown.finalState (m, b) = (m, b) :=
          (ends_finalState (Q := (· = (m, b)))).1 ((ends_takeDown_none bare m _).2 rfl)
        dsimp only
        split
        · exact fun _ => ⟨rfl, balanced⟩
        · change _ → (takeDown.finalState (_, b)).2 = b ∧ Balanced (m.since (takeDown.finalState (_, b)).1)
          rw [down]
          exact fun _ => ⟨rfl, balanced⟩
      · exact fun calm => absurd rfl (calm cause)
    | @ready m₁ context pool logical sub raises =>
      have stands : m.Alters (raising context.fixtures) m₁ := by
        rw [bare] at raises
        simpa [standing, razing] using raises
      -- However the run ends, short of a panic, the teardown follows it.
      refine (ends_run_keeps rfl _).mono fun r s₂ h => ?_
      obtain ⟨⟨m₂, b₂⟩, statistics₂⟩ := s₂
      obtain ⟨still, context', keeps, rfl⟩ := h
      obtain ⟨same, balanced⟩ := balanced_takeDown (b := { b with context := some context' }) logical sub
        (stands.still still) keeps rfl
      rw [← bare] at same
      rcases r with (e | cause) | _
      · dsimp only
        split
        · exact fun _ => ⟨same, balanced⟩
        · exact fun _ => ⟨same, balanced⟩
      · exact fun calm => absurd rfl (calm cause)
      · exact fun _ => ⟨same, balanced⟩

/-- Whatever fails: a context that cannot be brought up leaves nothing standing, and neither does a setup that
answers that the device is not capable; nor does a trial that ends without a panic, however it ends, and the
backend is then as it was before. The instance behind the device reports is razed, whether or not the devices
can be listed. What was raised is razed once, in the order pool, device, messenger, instance. -/
theorem balanced_throughout (m : Machine) (config : Configuration) (b : CopyBackend) (arguments : CopyArguments)
    (noop : Bool) (statistics : Statistics) :
    ((Context.create b.platform config).Ends m fun r m' => (∃ f, r = .error f) → Balanced (m.since m')) ∧
    ((setup arguments).Ends (m, b) fun r s => r ≠ .ok true → s.2 = b ∧ Balanced (m.since s.1)) ∧
    ((backend.execute arguments noop).Ends ((m, { b with context := none }), statistics) fun r s =>
      (∀ cause, r ≠ .error (.panic cause)) →
        s.1.2 = { b with context := none } ∧ Balanced (m.since s.1.1)) ∧
    ((DeviceReport.queryAll b.platform).Ends m fun _ m' => Balanced (m.since m')) := by
  refine ⟨?_, ?_, ends_execute_balanced rfl noop statistics, ?_⟩
  · refine (Context.erects_create b.platform config m).mono fun r m' erected => ?_
    rintro ⟨f, rfl⟩
    exact erected.balanced
  · refine (ends_setup_prepared arguments m b).mono fun r s prepared => ?_
    cases prepared with
    | ready => exact fun h => absurd rfl h
    | spared balanced => exact fun _ => ⟨rfl, balanced⟩
    | failed balanced => exact fun _ => ⟨rfl, balanced⟩
  · refine (DeviceReport.ends_queryAll b.platform m).mono fun r m' h => ?_
    obtain ⟨fixtures, sub, cycled⟩ := h
    exact cycled.balanced sub

/-- Where the command buffers of a pool cannot be made, all that the pool stands on goes with it. -/
example : (backend.execute oneCopy false).Ends
    (({ schedule := .ofRules [{ point := .allocateCommandBuffers }] }, onHost), {}) fun r s =>
      r.toOption = none ∧ alterations s.1.1.trace.toList = cycle [.apiInstance, .device, .pool 1] := by
  decide +kernel

end CopyBackend

end CopyBench
