import CopyBench.Main
import CopyBench.Proofs.Bootstrap.Upkeep
import CopyBench.Proofs.Pool.Draining
import CopyBench.Proofs.Suite.Measuring
import CopyBench.Proofs.Suite.Trial
import CopyBench.Suite.CopyBackend
/-!
# Copies that are submitted by the teardown

A run of the copy benchmark that is interrupted between recording a copy and submitting it leaves the
copy in a slot and destroys the buffers. The teardown drains the pool first, so it ends and submits
the slot once more. When the device accepts that, the copy is handed over after its buffers are gone,
and it breaks down there. This is the only way in which a trial comes to a stale submission.
-/

namespace CopyBench

open CopyBench.Action CopyBench.Session

namespace Machine

/-- Nothing waits under a number that has not been given out. -/
def Untouched (m : Machine) : Prop := ∀ b, m.lastHandle < b → m.work b = []

theorem untouched_new (schedule : Schedule) : Untouched { schedule } := fun _ _ => rfl

/-- The events of a machine since an earlier one. -/
def since (m m' : Machine) : List Event := m'.trace.toList.drop m.trace.toList.length

theorem since_eq {m m' : Machine} {events : List Event} (h : m'.trace.toList = m.trace.toList ++ events) :
    m.since m' = events := by
  rw [since, h, List.drop_left]

end Machine

namespace CopyBackend

/-- A run that is interrupted without breaking down, and leaves a slot that the device accepts when it
is flushed again. -/
structure Abandons (before : Machine) (r : Except Failure Unit) (s : Machine × CopyBackend) : Prop where
  interrupted : ∃ e, r = .error (.error e) ∧ e.Interrupts
  calm : ¬Crashed (before.since s.1)
  accepted : ∃ context pool, s.2.context = some context ∧ context.pool = some pool ∧
    ∃ slot ∈ pool.slots, slot.state ≠ .idle ∧ Retries ⟨s.1, pool⟩ slot

variable {m : Machine} {b : CopyBackend} {arguments : CopyArguments} {events : List Event}
  {context : Context} {s : Session}

@[simp] theorem ends_currentContext (s : Machine × CopyBackend)
    (Q : Except Failure (Option Context) → Machine × CopyBackend → Prop) :
    Ends currentContext s Q ↔ Q (.ok s.2.context) s := Iff.rfl

@[simp] theorem ends_setContext (context : Option Context) (s : Machine × CopyBackend)
    (Q : Except Failure Unit → Machine × CopyBackend → Prop) :
    Ends (setContext context) s Q ↔ Q (.ok ()) (s.1, { s.2 with context }) := Iff.rfl

/-! ## Setup -/

theorem ends_releaseContext (context : Option Context) (m : Machine) (b : CopyBackend) :
    (releaseContext context).Ends (m, b) fun _ s => s.2 = b ∧ ∃ more, Machine.Upkeep m [] more s.1 := by
  cases context with
  | none => exact ⟨rfl, [], .refl m⟩
  | some context =>
    rw [releaseContext, ends_onFirst]
    exact (context.tends_release m).mono fun _ _ h => ⟨rfl, h.1⟩

/-- A setup that succeeds has brought up a context whose pool, if it has one, is fresh. -/
theorem ends_setup (arguments : CopyArguments) (m : Machine) (b : CopyBackend) :
    (setup arguments).Ends (m, b) fun r s => r = .ok true → (∃ more, Machine.Upkeep m [] more s.1) ∧
      ∃ context, s.2.context = some context ∧ ∀ pool, context.pool = some pool → pool.Fresh m := by
  rw [setup, ends_bind, ends_get]
  dsimp only
  rw [ends_bind, ends_recover, ends_onFirst]
  refine (Context.readies_create b.platform _ m).mono fun r m₁ h => ?_
  obtain ⟨⟨more, upkeep⟩, fresh⟩ := h
  rcases r with (e | p) | context
  · dsimp only
    split
    · exact nofun
    · exact nofun
  · exact nofun
  · dsimp only
    rw [ends_bind, ends_currentContext]
    dsimp only
    rw [ends_bind, ends_setContext]
    dsimp only
    rw [ends_bind]
    refine (ends_releaseContext b.context m₁ _).mono fun r s h => ?_
    obtain ⟨hb, more', upkeep'⟩ := h
    have brought : (∃ more, Machine.Upkeep m [] more s.1) ∧
        ∃ context, s.2.context = some context ∧ ∀ pool, context.pool = some pool → pool.Fresh m :=
      ⟨⟨_, upkeep.trans upkeep'⟩, context, by rw [hb], fresh context rfl⟩
    cases r with
    | ok _ => exact fun _ => brought
    | error f => exact nofun

/-! ## Run -/

theorem ends_withPool {α : Type} (pool : CommandPool) (act : Action (Session × Statistics) α) (m : Machine)
    (b : CopyBackend) (statistics : Statistics)
    (Q : Except Failure (Except Failure α × CommandPool) → (Machine × CopyBackend) × Statistics → Prop) :
    (withPool pool act).Ends ((m, b), statistics) Q ↔
      act.Ends (⟨m, pool⟩, statistics) fun r s => Q (.ok (r, s.1.pool)) ((s.1.machine, b), s.2) := by
  unfold Ends withPool
  dsimp only
  rcases act (⟨m, pool⟩, statistics) with ⟨a, s⟩ | ⟨f, s⟩ <;> exact Iff.rfl

/-- A run on a context that has a pool measures in the session of that pool, and puts the pool back. -/
theorem ends_run_pool {pool : CommandPool} (hcontext : b.context = some context) (hpool : context.pool = some pool)
    (m : Machine) (statistics : Statistics) (Q : Except Failure Unit → (Machine × CopyBackend) × Statistics → Prop) :
    (run arguments).Ends ((m, b), statistics) Q ↔
      (CopyBuffer.measure arguments b.timing).Ends (⟨m, pool⟩, statistics) fun r s =>
        Q r ((s.1.machine, { b with context := some { context with pool := some s.1.pool } }), s.2) := by
  rw [run, ends_bind, ends_get]
  dsimp only
  rw [hcontext]
  dsimp only
  rw [hpool]
  dsimp only
  rw [ends_bind, ends_withPool]
  refine ends_congr fun r s => ?_
  dsimp only
  rw [ends_bind, ends_onFirst, ends_setContext]
  dsimp only
  rw [ends_conclude]

/-- What a run does to a context that is up is a departure. -/
theorem ends_run (orderly : Machine.Orderly m events s.machine) (rested : Rested m s)
    (hcontext : b.context = some context) (hpool : context.pool = some s.pool) (statistics : Statistics) :
    (run arguments).Ends ((s.machine, b), statistics) fun r s' => ∃ more pool,
      Departure m events more r ⟨s'.1.1, pool⟩ ∧ s'.1.2.context = some { context with pool := some pool } := by
  rw [ends_run_pool hcontext hpool]
  refine (CopyBuffer.ends_measure orderly rested arguments b.timing statistics).mono fun r s' h => ?_
  obtain ⟨more, departure⟩ := h
  exact ⟨more, s'.1.pool, departure, rfl⟩

/-- Without a pool there is nothing to run on. -/
theorem ends_run_bare (hcontext : b.context = some context) (hpool : context.pool = none) (m : Machine)
    (statistics : Statistics) (Q : Except Failure Unit → (Machine × CopyBackend) × Statistics → Prop) :
    (run arguments).Ends ((m, b), statistics) Q ↔
      Q (.error (.error (.configuration .noQueue))) ((m, b), statistics) := by
  rw [run, ends_bind, ends_get]
  dsimp only
  rw [hcontext]
  dsimp only
  rw [hpool]
  exact Iff.rfl

/-! ## Teardown -/

/-- Draining a pool leaves the machine where flushing all its slots leaves it. -/
theorem ends_drainPool (pool : CommandPool) (m : Machine) {P : Machine → Prop}
    (h : (flushAll true).Ends ⟨m, pool⟩ fun _ s => P s.machine) : (drainPool pool).Ends m fun _ m' => P m' := by
  revert h
  unfold Ends drainPool recover
  rcases flushAll true ⟨m, pool⟩ with ⟨a, s⟩ | ⟨_ | _, s⟩ <;> exact id

/-- What comes after the drain is upkeep. -/
theorem ends_takeDown {context : Context} {pool : CommandPool} (hcontext : b.context = some context)
    (hpool : context.pool = some pool) {P : Machine → Prop}
    (h : (flushAll true).Ends ⟨m, pool⟩ fun _ s => P s.machine) :
    takeDown.Ends (m, b) fun _ s => ∃ m₁ more, P m₁ ∧ Machine.Upkeep m₁ [] more s.1 := by
  have released {m₁ : Machine} {b₁ : CopyBackend} (hm₁ : P m₁) {more : List Event} {m₂ : Machine}
      (upkeep : Machine.Upkeep m₁ [] more m₂) (pool : CommandPool) :
      Ends (do
        setContext none
        releaseContext (some { context with pool := some pool })) (m₂, b₁) fun _ s =>
          ∃ m₁ more, P m₁ ∧ Machine.Upkeep m₁ [] more s.1 := by
    rw [ends_bind, ends_setContext]
    refine (ends_releaseContext _ m₂ _).mono fun r s h => ?_
    obtain ⟨-, more', upkeep'⟩ := h
    exact ⟨m₁, _, hm₁, upkeep.trans upkeep'⟩
  rw [takeDown, ends_bind, ends_currentContext, hcontext]
  dsimp only
  rw [hpool]
  dsimp only
  rw [ends_bind, ends_onFirst]
  refine (ends_drainPool pool m h).mono fun r m₁ hm₁ => ?_
  rcases r with f | ⟨e | _, pool'⟩
  · exact ⟨m₁, [], hm₁, .refl m₁⟩
  · exact released hm₁ (Machine.upkeep_told m₁ _) pool'
  · exact released hm₁ (.refl m₁) pool'

/-- Without a pool there is nothing to drain. -/
theorem ends_takeDown_bare (hcontext : b.context = some context) (hpool : context.pool = none) (m : Machine) :
    takeDown.Ends (m, b) fun _ s => ∃ more, Machine.Upkeep m [] more s.1 := by
  rw [takeDown, ends_bind, ends_currentContext, hcontext]
  dsimp only
  rw [hpool]
  dsimp only
  rw [ends_bind, ends_pure]
  dsimp only
  rw [ends_bind, ends_setContext]
  exact (ends_releaseContext _ m _).mono fun _ _ h => h.2

/-! ## Trials -/

/-- A trial whose setup succeeds runs and takes down, and logs at most what else there is to say. -/
theorem ends_execute {s₁ : Machine × CopyBackend} (ready : setup arguments (m, b) = .ok true s₁)
    (statistics : Statistics) {P : Machine → Prop} (told : ∀ note m, P m → P (Console.tell note m))
    (h : (run arguments).Ends (s₁, statistics.retag arguments.tag) fun r s₂ =>
      (∀ p, r ≠ .error (.panic p)) ∧ takeDown.Ends s₂.1 fun _ s₃ => P s₃.1) :
    (backend.execute arguments false).Ends ((m, b), statistics) fun _ s => P s.1.1 := by
  rw [Backend.ends_execute]
  refine (ends_of_ok ready).2 (h.mono fun r s₂ h₂ => ?_)
  obtain ⟨tame, down⟩ := h₂
  have closed := ends_finalState.1 down
  rcases r with (e | p) | _
  · dsimp only
    split
    · exact closed
    · exact told _ _ closed
  · exact absurd rfl (tame p)
  · exact closed

/-- A pool that is fresh, on a machine where nothing but upkeep was done since, is at rest. -/
theorem rested_of_fresh (untouched : m.Untouched) {touched : List Handle} {m₁ : Machine}
    (upkeep : Machine.Upkeep m touched events m₁) {pool : CommandPool} (fresh : pool.Fresh m) :
    Rested m ⟨m₁, pool⟩ := by
  refine ⟨⟨fresh.new, fun b hb => ?_, fresh.route⟩, fresh.cursor, fresh.idle⟩
  show m₁.work b = []
  rw [Machine.work, upkeep.recorded]
  exact untouched b (fresh.new b hb)

/-- Draining the pool of a run that abandoned a copy hands it over, and otherwise it hands over nothing
whose buffers are gone. -/
theorem ends_flushAll_departed {start : Machine} {more : List Event} {r : Except Failure Unit}
    (departure : Departure start events more r s) (hcontext : b.context = some context)
    (hpool : context.pool = some s.pool) {before : Machine} (since : before.since s.machine = more) :
    (flushAll true).Ends s fun _ s' =>
      Drains start (events ++ more) (Abandons before r (s.machine, b)) s'.machine := by
  rw [flushAll, ends_bind, ends_getPool]
  cases departure.parted with
  | spent broke spent =>
    have kept : ¬Abandons before r (s.machine, b) := by
      rintro ⟨⟨e, he, interrupts⟩, calm, -⟩
      exact calm (since ▸ broke e he interrupts)
    rw [eq_false kept]
    refine (ends_flushFrom_spent _ 0 departure.orderly spent).mono fun r s' h => ?_
    obtain ⟨more', vacant⟩ := h
    exact vacant.drains
  | @left e _ index slot copy interrupts calm leaves gone =>
    have abandons : Abandons before (.error (.error e)) (s.machine, b) ↔ s.Retries slot := by
      constructor
      · rintro ⟨-, -, context', pool, hcontext', hpool', slot', hmem, busy, retries⟩
        cases hcontext.symm.trans hcontext'
        cases hpool.symm.trans hpool'
        obtain ⟨j, hj⟩ := List.mem_iff_getElem?.1 hmem
        by_cases heq : j = index
        · subst heq
          cases hj.symm.trans leaves.here
          exact retries
        · exact absurd (leaves.others j slot' hj heq) busy
      · intro retries
        refine ⟨⟨e, rfl, interrupts⟩, since ▸ calm, context, s.pool, hcontext, hpool, slot,
          List.mem_of_getElem? leaves.here, ?_, retries⟩
        rcases leaves.waits with h | h <;> simp [h]
    rw [propext abandons]
    have hindex := (List.getElem?_eq_some_iff.1 leaves.here).1
    exact ends_flushFrom_left _ 0 departure.orderly leaves gone (Nat.zero_le _) (by omega)

/-- In a trial whose setup succeeds, the run itself submits no copy whose buffers are destroyed. The
teardown does, and breaks down at it, exactly when the run was interrupted before it submitted a copy
and the device accepts what the run left. -/
theorem stale_iff_abandons (untouched : m.Untouched) {s₁ : Machine × CopyBackend}
    (ready : setup arguments (m, b) = .ok true s₁) (statistics : Statistics) :
    (backend.execute arguments false).Ends ((m, b), statistics) fun _ s =>
      (run arguments).Ends (s₁, statistics.retag arguments.tag) fun r s₂ =>
        ¬Stale (m.since s₂.1.1) ∧ (Stale (m.since s.1.1) ↔ Abandons s₁.1 r s₂.1) ∧
          (Crashed (s₂.1.1.since s.1.1) ↔ Abandons s₁.1 r s₂.1) := by
  obtain ⟨⟨more₀, upkeep⟩, context, hcontext, fresh⟩ := (ends_of_ok ready).1 (ends_setup arguments m b) rfl
  obtain ⟨m₁, b₁⟩ := s₁
  have orderly : Machine.Orderly m more₀ m₁ := (Machine.Orderly.init untouched).upkeep upkeep
  have unstale : ¬Stale more₀ := mt (stale_append_plain upkeep.plain []).1 not_stale_nil
  refine ends_execute (P := fun m₃ => (run arguments).Ends ((m₁, b₁), statistics.retag arguments.tag)
    fun r s₂ => ¬Stale (m.since s₂.1.1) ∧ (Stale (m.since m₃) ↔ Abandons m₁ r s₂.1) ∧
      (Crashed (s₂.1.1.since m₃) ↔ Abandons m₁ r s₂.1)) ready statistics (fun _ _ h => h) ?_
  cases hpool : context.pool with
  | none =>
    have hrun (Q) : (run arguments).Ends ((m₁, b₁), statistics.retag arguments.tag) Q ↔ _ :=
      ends_run_bare hcontext hpool m₁ _ Q
    rw [hrun]
    refine ⟨nofun, (ends_takeDown_bare hcontext hpool m₁).mono fun _ s₃ h => ?_⟩
    obtain ⟨later, upkeep'⟩ := h
    have since₂ : m.since m₁ = more₀ := Machine.since_eq orderly.trace
    have since₃ : m.since s₃.1 = more₀ ++ later := Machine.since_eq (orderly.upkeep upkeep').trace
    have sinceRun : m₁.since s₃.1 = later := Machine.since_eq upkeep'.trace
    have kept : ¬Abandons m₁ (.error (.error (.configuration .noQueue))) (m₁, b₁) := by
      rintro ⟨⟨e, he, point, -, code, rfl⟩, -⟩
      cases he
    rw [hrun]
    dsimp only
    rw [since₂, since₃, sinceRun, stale_append_plain upkeep'.plain]
    exact ⟨unstale, iff_of_false unstale kept, iff_of_false (not_crashed_of_plain upkeep'.plain) kept⟩
  | some pool =>
    refine ((ends_run orderly (rested_of_fresh untouched upkeep (fresh pool hpool)) hcontext hpool _).and
      (ends_self _ _)).mono fun r s₂ h => ?_
    obtain ⟨⟨more, pool', departure, hcontext'⟩, self⟩ := h
    obtain ⟨⟨m₂, b₂⟩, statistics₂⟩ := s₂
    have since₂ : m.since m₂ = more₀ ++ more := Machine.since_eq departure.orderly.trace
    have since : m₁.since m₂ = more := by
      refine Machine.since_eq ?_
      rw [orderly.trace, List.append_assoc]
      exact departure.orderly.trace
    refine ⟨departure.tame, (ends_takeDown hcontext' rfl (ends_flushAll_departed departure hcontext' rfl
      since)).mono fun _ s₃ h => self.mono ?_⟩
    rintro _ _ ⟨rfl, rfl⟩
    obtain ⟨m', more', drains, upkeep'⟩ := h
    obtain ⟨later, orderly₃, hstale, hcrashed⟩ := drains.upkeep upkeep'
    have since₃ : m.since s₃.1 = more₀ ++ more ++ later := Machine.since_eq orderly₃.trace
    have sinceRun : m₂.since s₃.1 = later := by
      refine Machine.since_eq ?_
      rw [departure.orderly.trace, List.append_assoc]
      exact orderly₃.trace
    have unstale₂ : ¬Stale (more₀ ++ more) := mt departure.fresh.1 unstale
    dsimp only
    rw [since₂, since₃, sinceRun, hstale, or_iff_right unstale₂]
    exact ⟨unstale₂, Iff.rfl, hcrashed⟩

-- Irreducible, so that no tactic starts to run the trial. The kernel does.
/-- The device is lost at the first ending of a command buffer. -/
@[irreducible] def losesFirstEnd : Schedule := .ofRules [{ point := .endCommandBuffer }]

/-- The copy benchmark on the host's platform. -/
def onHost : CopyBackend := { platform := Command.hostPlatform }

/-- One timed copy of a few bytes. -/
def oneCopy : CopyArguments := { size := 16, iterations := 1 }

/-- On the host's platform, a run that is interrupted at its first copy abandons it, and the teardown
submits it. -/
theorem stale_losesFirstEnd : ∃ s₁, Machine.Untouched { schedule := losesFirstEnd } ∧
    setup oneCopy ({ schedule := losesFirstEnd }, onHost) = .ok true s₁ ∧
    (backend.execute oneCopy false).Ends (({ schedule := losesFirstEnd }, onHost), {}) fun _ s =>
      Stale (Machine.since { schedule := losesFirstEnd } s.1.1) := by
  have succeeds : (setup oneCopy).Ends ({ schedule := losesFirstEnd }, onHost) fun r _ =>
      r.toOption = some true := by
    decide +kernel
  obtain ⟨s₁, ready⟩ : ∃ s₁, setup oneCopy ({ schedule := losesFirstEnd }, onHost) = .ok true s₁ := by
    refine ((succeeds.and (ends_eq_ok _ _)).mono fun r s h => ?_).elim
    rcases r with f | _ | _
    · cases h.1
    · cases h.1
    · exact ⟨s, h.2 true rfl⟩
  have crashes : (setup oneCopy).Ends ({ schedule := losesFirstEnd }, onHost) fun _ s₁ =>
      (backend.execute oneCopy false).Ends (({ schedule := losesFirstEnd }, onHost), {}) fun _ s =>
        (run oneCopy).Ends (s₁, Statistics.retag {} oneCopy.tag) fun _ s₂ =>
          Crashed (s₂.1.1.since s.1.1) := by
    decide +kernel
  have untouched := Machine.untouched_new losesFirstEnd
  refine ⟨s₁, untouched, ready, ((stale_iff_abandons untouched ready {}).and
    ((ends_of_ok ready).1 crashes)).mono fun _ s h => ?_⟩
  refine ((h.1.and h.2).mono fun r s₂ h => ?_).elim
  exact h.1.2.1.2 (h.1.2.2.1 h.2)

end CopyBackend

end CopyBench
