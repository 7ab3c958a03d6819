import CopyBench.Proofs.Buffer.Requests
import CopyBench.Proofs.Pool.Waiting
import CopyBench.Proofs.Suite.Teardown
/-!
# Buffers that are released in use

Every copy of a measurement is waited for, and both buffers are released however it ends. So a buffer is
released in use in one way only: the wait for a fence fails after its submission was accepted, and nothing
else is waited for before the buffers go.
-/

namespace CopyBench

open CopyBench.Action CopyBench.Session

variable {start : Machine} {targets : List Handle} {s s' : Session}

theorem Machine.BufferSteps.aloof {m m' : Machine} (steps : BufferSteps m m') : m.Aloof m' := by
  induction steps with
  | refl => exact .refl m
  | tail _ last ih =>
    refine ih.trans ?_
    cases last with
    | told => exact .refl _
    | named | buffered | allocated | bound | mapped | unmappable | unmapped | destroyed | freed =>
      exact aloof_event rfl trivial
    | refused point code on =>
      refine aloof_event rfl ?_
      dsimp only
      cases ‹Call› <;> first | exact on.elim | trivial
    | overwritten memory offset patch =>
      unfold Machine.overwritten
      split <;> exact .refl _

namespace StagedBuffer

/-- Calls on buffers neither submit nor wait. -/
theorem stable_aloof (s : Session) : BufferStable s.Aloof := fun _ _ steps aloof =>
  aloof.trans ⟨rfl, steps.aloof⟩

/-- A fill of a buffer that is to be released. -/
theorem ends_fill_aftermath (h : Aftermath start targets (.ok ()) s) {b : StagedBuffer}
    (target : b.main.handle ∈ targets) (contents : Contents) (discard : Bool) :
    (b.fill contents discard).Ends s fun r s' => ∃ b' result, r = .ok (b', result) ∧ b'.main = b.main ∧
      Aftermath start targets result s' := by
  -- Finding or building the staging buffer submits nothing, so what held before still holds.
  have staged {m : Machine} (steps : Machine.BufferSteps s.machine m) :
      Aftermath start targets (.ok ()) { s with machine := m } := h.aloof ⟨rfl, steps.aloof⟩
  refine ends_fill_prepared b contents discard s
    (fun f m steps _ _ => ⟨_, _, rfl, rfl, (staged steps).fail f⟩) fun b' staging m steps prepared => ?_
  refine (ends_copyFrom_aftermath (staged steps) target staging _).mono fun r s₂ copied => ?_
  cases r with
  | error f => exact ⟨_, _, rfl, prepared.main, copied⟩
  | ok _ =>
    dsimp only
    split
    case isFalse => exact ⟨_, _, rfl, prepared.main, copied⟩
    case isTrue =>
      have steps := BoundBuffer.maintains_release staging s₂.machine .refl
      rw [BoundBuffer.ends_release] at steps
      exact ⟨_, _, rfl, prepared.main, copied.aloof ⟨rfl, steps.aloof⟩⟩

theorem aloof_farewell (b : StagedBuffer) : ∀ event ∈ b.farewell, event.call.Aloof := by
  intro event hmem
  obtain ⟨part, -, hmem⟩ := List.mem_flatMap.1 hmem
  rcases List.mem_cons.1 hmem with rfl | hmem
  · trivial
  · cases List.mem_singleton.1 hmem
    trivial

theorem destroyed_farewell (b : StagedBuffer) : Destroyed b.farewell b.main.handle := by
  refine List.mem_flatMap.2 ⟨b.main, ?_, List.mem_cons_self⟩
  exact List.mem_append_right _ (List.mem_singleton.2 rfl)

end StagedBuffer

/-- When the targets are destroyed afterwards, without another wait, one of them was in use exactly when a
wait failed. -/
theorem Session.Aftermath.releasedInUse_iff {r : Except Failure Unit} (h : Aftermath start targets r s)
    {m : Machine} {more : List Event} (trace : m.trace.toList = s.machine.trace.toList ++ more)
    (aloof : ∀ event ∈ more, event.call.Aloof) (gone : ∀ target ∈ targets, Destroyed more target) :
    ReleasedInUse (start.since m) ↔ WaitFailed (start.since m) := by
  cases h with
  | calm before calm idle =>
    rw [before, List.append_assoc] at trace
    rw [Machine.since_eq trace]
    have settled := calm.append aloof
    exact iff_of_false settled.unreleased settled.waited
  | doomed before mem doomed =>
    rw [before, List.append_assoc] at trace
    rw [Machine.since_eq trace]
    exact iff_of_true (doomed.releasedInUse aloof (gone _ mem)) (doomed.append aloof).failed

namespace CopyBuffer

/-- Filling both buffers. -/
theorem ends_fillBoth_aftermath (h : Aftermath start targets (.ok ()) s) {source destination : StagedBuffer}
    (sourceTarget : source.main.handle ∈ targets) (target : destination.main.handle ∈ targets)
    (contents : Contents) :
    (fillBoth contents source destination).Ends s fun r s' => ∃ source' destination' result,
      r = .ok ((source', destination'), result) ∧ source'.main = source.main ∧
        destination'.main = destination.main ∧ Aftermath start targets result s' := by
  rw [fillBoth, ends_bind]
  refine (StagedBuffer.ends_fill_aftermath h sourceTarget contents true).mono fun r s₁ h => ?_
  obtain ⟨source', result, rfl, sourceMain, filled⟩ := h
  cases result with
  | error f => exact ⟨_, _, _, rfl, sourceMain, rfl, filled⟩
  | ok _ =>
    dsimp only
    rw [ends_bind]
    refine (StagedBuffer.ends_fill_aftermath filled target contents true).mono fun r s₂ h => ?_
    obtain ⟨destination', result', rfl, main, filled'⟩ := h
    exact ⟨_, _, _, rfl, sourceMain, main, filled'⟩

theorem ends_timedCopies_aftermath {source destination : BoundBuffer} (target : destination.handle ∈ targets)
    (arguments : CopyArguments) (timing : Timing) (n : Nat) : ∀ (k : Nat) {s : Session} (statistics : Statistics),
      Aftermath start targets (.ok ()) s →
        (timedCopies source destination arguments timing k n).Ends (s, statistics) fun r s' =>
          Aftermath start targets r s'.1 := by
  induction n with
  | zero => exact fun k s statistics h => h
  | succ n ih =>
    intro k s statistics h
    rw [timedCopies, ends_bind, ends_onFirst]
    refine (StagedBuffer.ends_copyFrom_aftermath h target source _).mono fun r s₁ copied => ?_
    cases r with
    | error f => exact copied
    | ok _ =>
      dsimp only
      rw [ends_bind]
      refine (Statistics.ends_pushSample (timing k) arguments.size arguments.tag s₁ statistics).mono
        fun r s₂ h => ?_
      obtain ⟨rfl, pool, told⟩ := h
      exact ih (k + 1) s₂.2 (copied.aloof ⟨pool, [], told.trace, List.forall_mem_nil _⟩)

/-- What is measured once the buffers are filled, or could not be. -/
theorem ends_measuring_aftermath {filled : Except Failure Unit} (h : Aftermath start targets filled s)
    {source destination : BoundBuffer} (target : destination.handle ∈ targets) (arguments : CopyArguments)
    (timing : Timing) (statistics : Statistics) {first last : Action Session Unit} (firstTells : Tells first)
    (lastTells : Tells last) :
    (do
      Action.conclude filled
      Action.onFirst first
      timedCopies source destination arguments timing 0 arguments.iterations
      Action.onFirst last : Action (Session × Statistics) Unit).Ends (s, statistics) fun r s' =>
        Aftermath start targets r s'.1 := by
  rw [ends_bind, ends_conclude]
  cases filled with
  | error f => exact h
  | ok _ =>
    dsimp only
    rw [ends_bind, ends_onFirst]
    refine (firstTells s).mono fun r s₁ h₁ => ?_
    obtain ⟨rfl, pool, told⟩ := h₁
    have started := h.aloof ⟨pool, [], told.trace, List.forall_mem_nil _⟩
    dsimp only
    rw [ends_bind]
    refine (ends_timedCopies_aftermath target arguments timing arguments.iterations 0 statistics
      started).mono fun r s₂ timed => ?_
    cases r with
    | error f => exact timed
    | ok _ =>
      dsimp only
      rw [ends_onFirst]
      refine (lastTells s₂.1).mono fun r s₃ h₃ => ?_
      obtain ⟨rfl, pool, told⟩ := h₃
      exact timed.aloof ⟨pool, [], told.trace, List.forall_mem_nil _⟩

/-- The destination goes before the source, and each in its own order. -/
theorem ends_releaseBoth_trace (source destination : StagedBuffer) (s : Session) :
    (releaseBoth source destination).Ends s fun r s' => r = .ok () ∧
      s'.machine.trace.toList = s.machine.trace.toList ++ (destination.farewell ++ source.farewell) := by
  rw [releaseBoth, ends_bind, ends_lift, StagedBuffer.ends_release]
  dsimp only
  rw [ends_lift, StagedBuffer.ends_release]
  refine ⟨rfl, ?_⟩
  rw [StagedBuffer.trace_without_parts, StagedBuffer.trace_without_parts, List.append_assoc]

/-- Whatever fails, a measurement on a pool whose slots are idle releases a buffer in use exactly when a wait
for a fence fails. -/
theorem releasedInUse_iff_waitFailed (idle : s.pool.Idle) (arguments : CopyArguments) (timing : Timing)
    (statistics : Statistics) :
    (measure arguments timing).Ends (s, statistics) fun _ s' =>
      ReleasedInUse (s.machine.since s'.1.machine) ↔ WaitFailed (s.machine.since s'.1.machine) := by
  have rested (targets : List Handle) : Aftermath s.machine targets (.ok ()) s := .refl idle
  rw [measure, ends_bind, ends_onFirst]
  refine (StagedBuffer.maintains_create (StagedBuffer.stable_aloof s) (sourceSpec arguments.size) s
    (.refl s)).mono fun r s₁ created => ?_
  cases r with
  | error f =>
    -- Nothing was submitted before both buffers were made, so no target has to be destroyed.
    exact ((rested []).aloof created).releasedInUse_iff (List.append_nil _).symm (List.forall_mem_nil _)
      (List.forall_mem_nil _)
  | ok source =>
    dsimp only
    rw [ends_bind, ends_onFirst, ends_onFailure]
    refine (StagedBuffer.maintains_create (StagedBuffer.stable_aloof s₁) (destinationSpec arguments.size) s₁
      (.refl s₁)).mono fun r s₂ created' => ?_
    have made := created.trans created'
    cases r with
    | error f =>
      dsimp only
      rw [ends_lift, StagedBuffer.ends_release]
      exact ((rested []).aloof made).releasedInUse_iff (StagedBuffer.trace_without_parts ..)
        source.aloof_farewell (List.forall_mem_nil _)
    | ok destination =>
      let targets := [source.main.handle, destination.main.handle]
      dsimp only
      rw [ends_bind, ends_onFirst]
      refine (ends_fillBoth_aftermath ((rested targets).aloof made) (by simp [targets]) (by simp [targets])
        arguments.contents).mono fun r s₃ h => ?_
      obtain ⟨source', destination', filled, rfl, sourceMain, main, aftermath⟩ := h
      dsimp only
      rw [ends_ensuring]
      refine (ends_measuring_aftermath aftermath (main ▸ by simp [targets]) arguments timing statistics
        (tells_logStart arguments destination') (tells_logEnd source' destination')).mono fun r s₄ measured => ?_
      rw [ends_onFirst]
      refine (ends_releaseBoth_trace source' destination' s₄.1).mono fun r s₅ h => ?_
      obtain ⟨rfl, released⟩ := h
      refine measured.releasedInUse_iff released ?_ ?_
      · exact List.forall_mem_append.2 ⟨destination'.aloof_farewell, source'.aloof_farewell⟩
      · simp only [targets, List.mem_cons, List.not_mem_nil, or_false]
        rintro target (rfl | rfl)
        · exact List.mem_append_right _ (sourceMain ▸ source'.destroyed_farewell)
        · exact List.mem_append_left _ (main ▸ destination'.destroyed_farewell)

/-- On a pool that was just made, a measurement whose first wait fails releases a buffer in use. -/
theorem releasedInUse_losesFirstWait : ∃ m pool,
    CommandPool.create { memoryTypes := [1, 6] } 1 3 0 0 { schedule := .losesFirst .waitForFence } = .ok pool m ∧
      pool.Idle ∧ (measure CopyBackend.oneCopy (fun _ => .zero)).Ends (⟨m, pool⟩, {}) fun _ s' =>
        ReleasedInUse (m.since s'.1.machine) := by
  let device : Device := { memoryTypes := [1, 6] }
  let pool := CommandPool.fresh device 1 3 0 1
  let m := CommandPool.created { schedule := .losesFirst .waitForFence } device 3 0 0
  have created : CommandPool.create device 1 3 0 0 { schedule := .losesFirst .waitForFence } = .ok pool m :=
    CommandPool.create_ok rfl 1 (by decide) 0 0 (by decide +kernel) (by decide +kernel)
  have idle : pool.Idle := (CommandPool.slots_of_create created).1
  have failed : (measure CopyBackend.oneCopy (fun _ => .zero)).Ends (⟨m, pool⟩, {}) fun _ s' =>
      ⟨.waitForFence 11 Session.fenceTimeout, .failed .deviceLost⟩ ∈ m.since s'.1.machine := by
    decide +kernel
  refine ⟨m, pool, created, idle, ((releasedInUse_iff_waitFailed (s := ⟨m, pool⟩) idle _ _ _).and
    failed).mono fun _ s' h => ?_⟩
  exact h.1.2 ⟨_, _, _, h.2⟩

end CopyBuffer

end CopyBench
