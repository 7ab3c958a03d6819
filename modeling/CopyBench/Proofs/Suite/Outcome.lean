import CopyBench.Proofs.Sample.Summary
import CopyBench.Proofs.Suite.Stages
/-!
# How a measurement comes out

A measurement on a new pool succeeds when no call fails: each timed copy moved the contents onto
themselves and gave one sample. Else it fails with the error of the first failing call, has one sample for
each timed copy before it, and makes no more calls but those that give something back. In both cases
nothing that it made is left.
-/

namespace CopyBench

open CopyBench.Action CopyBench.Session

/-- The samples of `n` timed copies, after `k` that were timed before. -/
def CopyArguments.samples (arguments : CopyArguments) (timing : CopyBuffer.Timing) (k n : Nat) : List Binary64 :=
  (List.range' k n).map fun i => arguments.tag.measure.sample (timing i) arguments.size

namespace CopyBuffer

variable {arguments : CopyArguments} {timing : Timing} {source destination : BoundBuffer} {k : Nat}
  {s s₁ s₂ : Session} {more more' : List Event} {seen new : List Sighting} {r : Except Failure Unit}
  {before after : Session × Statistics}

/-! ## Timed copies -/

/-- What timed copies come to: for each that succeeded there is a sample, a sighting and a completed copy. -/
structure Timed (arguments : CopyArguments) (timing : Timing) (source destination : BoundBuffer) (k : Nat)
    (before : Session × Statistics) (more : List Event) (new : List Sighting) (r : Except Failure Unit)
    (after : Session × Statistics) : Prop where
  course : Course before.1 more new.length 0 r after.1
  owned : after.1.machine.Owned [destination, source] 0
  samples : after.2.samples = before.2.samples ++ arguments.samples timing k new.length
  repeats : ∀ sighting ∈ new, sighting.1.1.machine.Repeats source.handle destination.handle arguments.size
    arguments.octets sighting.2.1.machine

/-- A timed copy that succeeds comes before others. -/
theorem Timed.cons {statistics : Statistics} (sighting : Sighting)
    (course : Course before.1 more 1 0 (.ok () : Except Failure Unit) s)
    (samples : statistics.samples = before.2.samples ++ arguments.samples timing k 1)
    (repeats : sighting.1.1.machine.Repeats source.handle destination.handle arguments.size arguments.octets
      sighting.2.1.machine)
    (later : Timed arguments timing source destination (k + 1) (s, statistics) more' new r after) :
    Timed arguments timing source destination k before (more ++ more') (sighting :: new) r after := by
  refine ⟨?_, later.owned, ?_, List.forall_mem_cons.2 ⟨repeats, later.repeats⟩⟩
  · rw [List.length_cons, Nat.add_comm]
    exact course.trans later.course
  · rw [later.samples, samples, List.append_assoc]
    rfl

theorem ends_watchedCopies (n : Nat) : ∀ (k : Nat) {s : Session} (statistics : Statistics) (seen : List Sighting),
    Stage arguments [destination, source] [destination, source] s →
      (watchedCopies source destination arguments timing k n).Ends ((s, statistics), seen) fun r s' =>
        ∃ more new, Timed arguments timing source destination k (s, statistics) more new r s'.1 ∧
          s'.2 = seen ++ new ∧ (r = .ok () → new.length = n) := by
  induction n with
  | zero =>
    intro k s statistics seen stage
    exact ⟨[], [], ⟨.refl stage.unladen (), stage.owned, (List.append_nil _).symm, List.forall_mem_nil _⟩,
      (List.append_nil _).symm, fun _ => rfl⟩
  | succ n ih =>
    intro k s statistics seen stage
    rw [watchedCopies, ends_bind, ends_noting, ends_onFirst]
    refine stage.copy.mono fun r s₁ h => ?_
    obtain ⟨⟨more, course⟩, owned, later⟩ := h
    cases r with
    | error f =>
      exact ⟨more, [], ⟨course, owned, (List.append_nil _).symm, List.forall_mem_nil _⟩,
        (List.append_nil _).symm, by simp⟩
    | ok _ =>
      obtain ⟨stage₁, repeats⟩ := later rfl
      dsimp only
      rw [ends_bind, ends_onFirst]
      refine (Statistics.ends_pushSample_push (timing k) arguments.size arguments.tag s₁ statistics).mono
        fun r s₂ h => ?_
      obtain ⟨s₂, statistics₂⟩ := s₂
      obtain ⟨rfl, pushed, told⟩ := h
      have samples := congrArg Statistics.samples pushed
      have stage₂ : Stage arguments [destination, source] [destination, source] s₂ ∧
          Course s more 1 0 (.ok () : Except Failure Unit) s₂ := by
        obtain rfl | ⟨note, rfl⟩ := told
        · exact ⟨stage₁, course⟩
        · exact ⟨stage₁.told note, course.told (Machine.beside_told note s₁.machine)⟩
      refine (ih (k + 1) statistics₂ _ stage₂.1).mono fun r s₃ h => ?_
      obtain ⟨more', new, timed, hseen, all⟩ := h
      refine ⟨_, _, .cons ((s, statistics), (s₁, statistics)) stage₂.2 samples repeats timed, ?_,
        fun hr => congrArg (· + 1) (all hr)⟩
      rw [hseen, List.append_assoc]
      rfl

/-! ## Filling both buffers -/

theorem ends_fillBoth_course {source destination : StagedBuffer}
    (stage : Stage arguments [destination.main, source.main] [] s) (sourceBare : source.staging = none)
    (bare : destination.staging = none) (sourceAsked : source.requestedSize = arguments.size)
    (asked : destination.requestedSize = arguments.size) :
    (fillBoth arguments.contents source destination).Ends s fun r s' => ∃ source' destination' result more n,
      r = .ok ((source', destination'), result) ∧ Course s more n 2 result s' ∧ n ≤ 2 ∧
        s'.machine.Owned (destination'.parts ++ source'.parts) 0 ∧
          (result = .ok () → (n = 2 ∧ destination'.parts ++ source'.parts = [destination'.main, source'.main] ∧
              Stage arguments [destination'.main, source'.main] [destination'.main, source'.main] s') ∧
            source'.stagingWrites + destination'.stagingWrites =
              source.stagingWrites + destination.stagingWrites + 2) := by
  rw [fillBoth, ends_bind]
  refine ((stage.perm (.swap ..)).fill sourceBare sourceAsked).mono fun r s₁ h => ?_
  obtain ⟨source', result, more, rfl, course, owned, filled⟩ := h
  cases result with
  | error f =>
    refine ⟨_, _, _, more, 0, rfl, course.fail 2, Nat.zero_le _, ?_, nofun⟩
    rw [StagedBuffer.parts_of_bare bare]
    exact owned.perm List.perm_append_comm
  | ok _ =>
    obtain ⟨sourceMain, sourceWrites, parts, stage₁⟩ := filled rfl
    dsimp only
    rw [ends_bind]
    refine ((stage₁.perm (.swap ..)).fill bare asked).mono fun r s₂ h => ?_
    obtain ⟨destination', result, more', rfl, course', owned', filled'⟩ := h
    have both := course.trans course'
    cases result with
    | error f =>
      refine ⟨_, _, _, _, 1, rfl, both, Nat.le_succ 1, ?_, nofun⟩
      rw [parts]
      exact owned'
    | ok _ =>
      obtain ⟨main, writes, parts', stage₂⟩ := filled' rfl
      refine ⟨_, _, _, _, 2, rfl, both, Nat.le_refl 2, ?_, fun _ => ⟨⟨rfl, ?_, ?_⟩, ?_⟩⟩
      · rw [parts]
        exact owned'
      · rw [parts, parts', main, sourceMain]
        rfl
      · rw [main, sourceMain]
        exact stage₂
      · rw [sourceWrites, writes]
        omega

/-! ## The measurement -/

theorem notes_without (m : Machine) (parts : List BoundBuffer) : (m.without parts).notes = m.notes := by
  induction parts generalizing m with
  | nil => rfl
  | cons b parts ih => exact ih _

/-- A measurement releases both buffers, whichever way it went. -/
theorem ends_releaseBoth_course {source destination : StagedBuffer} {copies writes : Nat}
    (course : Course s more copies writes r s₁)
    (owned : s₁.machine.Owned (destination.parts ++ source.parts) 0) :
    (releaseBoth source destination).Ends s₁ fun c s₂ => c = .ok () ∧ s₂.pool = s₁.pool ∧
      (∃ more', Course s (more ++ more') copies writes r s₂) ∧ s₂.machine.Owned [] 0 ∧
        s₂.machine.notes = s₁.machine.notes := by
  rw [releaseBoth, ends_bind, ends_lift, StagedBuffer.ends_release]
  dsimp only
  rw [ends_lift, StagedBuffer.ends_release]
  have beside := (destination.beside_farewell s₁.machine).trans (source.beside_farewell _)
  have released := List.forall_mem_append.2 ⟨destination.releases_farewell, source.releases_farewell⟩
  refine ⟨rfl, rfl, ⟨_, course.release beside released⟩, ?_, (notes_without ..).trans (notes_without ..)⟩
  have sourceOwned := owned.without
  rw [← List.append_nil source.parts] at sourceOwned
  exact sourceOwned.without

/-- What a watched measurement comes to, when `completed` copies are complete. -/
structure Measured (arguments : CopyArguments) (timing : Timing) (before : Session × Statistics)
    (more : List Event) (completed : Nat) (seen : List Sighting) (r : Except Failure Unit)
    (after : Session × Statistics) : Prop where
  course : Course before.1 more completed 2 r after.1
  samples : after.2.samples = before.2.samples ++ arguments.samples timing 0 seen.length
  /-- The two first copies fill the buffers. -/
  copies : seen.length = completed - 2
  repeats : ∃ source destination, ∀ sighting ∈ seen, sighting.1.1.machine.Repeats source destination
    arguments.size arguments.octets sighting.2.1.machine
  all : r = .ok () → seen.length = arguments.iterations ∧ completed = 2 + arguments.iterations

/-- A measurement that fails before the timed copies has no samples. -/
theorem Measured.early {f : Failure} {n writes : Nat} {statistics : Statistics}
    (course : Course s more n writes (.error f : Except Failure Unit) s₁) (few : n ≤ 2) :
    Measured arguments timing (s, statistics) more n [] (.error f) (s₁, statistics) :=
  ⟨course.fail 2, (List.append_nil _).symm, (Nat.sub_eq_zero_of_le few).symm, ⟨0, 0, List.forall_mem_nil _⟩, nofun⟩

/-- What the end of a measurement tells. -/
def endNote (writes flushes : Nat) : Note :=
  .logged .debug (name ++ ": " ++ toString writes ++ " staging write(s), " ++ toString flushes ++ " auto-flush(es)")

/-- What is measured once the buffers are filled, or could not be. -/
theorem ends_measuring_measured {source destination : StagedBuffer} {filled : Except Failure Unit} {n : Nat}
    (course : Course s more n 2 filled s₁) (few : n ≤ 2)
    (owned : s₁.machine.Owned (destination.parts ++ source.parts) 0)
    (done : filled = .ok () → n = 2 ∧ destination.parts ++ source.parts = [destination.main, source.main] ∧
      Stage arguments [destination.main, source.main] [destination.main, source.main] s₁) (statistics : Statistics) :
    (do
      Action.conclude filled
      Action.onFirst (Action.onFirst (logStart arguments destination))
      watchedCopies source.main destination.main arguments timing 0 arguments.iterations
      Action.onFirst (Action.onFirst (logEnd source destination)) :
        Action ((Session × Statistics) × List Sighting) Unit).Ends ((s₁, statistics), []) fun r s' =>
          (∃ more completed, Measured arguments timing (s, statistics) more completed s'.2 r s'.1) ∧
            s'.1.1.machine.Owned (destination.parts ++ source.parts) 0 ∧
              (r = .ok () → filled = .ok () ∧ s'.1.1.machine.notes.back? =
                some (endNote (source.stagingWrites + destination.stagingWrites) s'.1.1.pool.autoFlushes)) := by
  rw [ends_bind, ends_conclude]
  cases filled with
  | error f => exact ⟨⟨more, n, .early course few⟩, owned, nofun⟩
  | ok _ =>
    obtain ⟨rfl, parts, stage⟩ := done rfl
    rw [parts]
    dsimp only
    rw [ends_bind, ends_onFirst, ends_onFirst, logStart, ends_bind, ends_getPool]
    dsimp only
    rw [ends_log]
    dsimp only
    rw [ends_bind]
    refine (ends_watchedCopies arguments.iterations 0 statistics [] (stage.told _)).mono fun r s₂ h => ?_
    obtain ⟨more', new, timed, hseen, all⟩ := h
    rw [List.nil_append] at hseen
    have whole := (course.told (Machine.beside_told _ s₁.machine)).trans timed.course
    have measured : Measured arguments timing (s, statistics) (more ++ more') (2 + new.length) s₂.2 r s₂.1 := by
      rw [hseen]
      refine ⟨whole, timed.samples, (Nat.add_sub_cancel_left 2 _).symm, ⟨_, _, timed.repeats⟩, fun hr => ?_⟩
      exact ⟨all hr, congrArg (2 + ·) (all hr)⟩
    cases r with
    | error f => exact ⟨⟨_, _, measured⟩, timed.owned, nofun⟩
    | ok _ =>
      dsimp only
      rw [ends_onFirst, ends_onFirst, logEnd, ends_bind, ends_getPool]
      dsimp only
      rw [ends_log]
      let note := endNote (source.stagingWrites + destination.stagingWrites) s₂.1.1.pool.autoFlushes
      have told := measured.course.told (Machine.beside_told note s₂.1.1.machine)
      refine ⟨⟨_, _, told, measured.samples, measured.copies, measured.repeats, measured.all⟩, ?_, fun _ => ⟨rfl, ?_⟩⟩
      · exact timed.owned.same (Machine.sameStock_told ..)
      · exact Array.back?_push ..

/-- A watched measurement on an unladen session that has nothing. -/
theorem ends_measureWatched (stage : Stage arguments [] [] s) (statistics : Statistics) :
    (measureWatched arguments timing).Ends ((s, statistics), []) fun r s' =>
      (∃ more completed, Measured arguments timing (s, statistics) more completed s'.2 r s'.1) ∧
        s'.1.1.machine.Owned [] 0 ∧
          (r = .ok () → s'.1.1.machine.notes.back? = some (endNote 2 s'.1.1.pool.autoFlushes)) := by
  unfold measureWatched measureBy
  rw [ends_bind, ends_onFirst, ends_onFirst]
  refine (stage.create (show (sourceSpec arguments.size).size = _ from rfl)).mono fun r s₁ h => ?_
  obtain ⟨⟨more, course⟩, made⟩ := h
  cases r with
  | error f => exact ⟨⟨more, 0, .early (course.fail 0) (Nat.zero_le 2)⟩, made, nofun⟩
  | ok source =>
    obtain ⟨⟨sourceBare, sourceWrites, sourceAsked⟩, stage₁⟩ := made
    dsimp only
    rw [ends_bind, ends_onFirst, ends_onFirst, ends_onFailure]
    refine (stage₁.create (show (destinationSpec arguments.size).size = _ from rfl)).mono fun r s₂ h => ?_
    obtain ⟨⟨more', course'⟩, made⟩ := h
    have both := course.trans course'
    cases r with
    | error f =>
      dsimp only
      rw [ends_lift, StagedBuffer.ends_release]
      have released := both.release (source.beside_farewell s₂.machine) source.releases_farewell
      refine ⟨⟨_, 0, .early (released.fail 0) (Nat.zero_le 2)⟩, ?_, nofun⟩
      rw [StagedBuffer.parts_of_bare sourceBare]
      exact made.without
    | ok destination =>
      obtain ⟨⟨bare, writes, asked⟩, stage₂⟩ := made
      dsimp only
      rw [ends_bind, ends_onFirst, ends_onFirst]
      refine (ends_fillBoth_course stage₂ sourceBare bare sourceAsked asked).mono fun r s₃ h => ?_
      obtain ⟨source', destination', result, more₃, n, rfl, filled, few, owned, done⟩ := h
      have whole := both.trans filled
      rw [Nat.zero_add] at whole
      dsimp only
      rw [ends_ensuring]
      refine (ends_measuring_measured whole few owned (fun hr => (done hr).1) statistics).mono fun r s₄ h => ?_
      obtain ⟨⟨more₄, completed, measured⟩, owned₄, told⟩ := h
      rw [ends_onFirst, ends_onFirst]
      refine (ends_releaseBoth_course measured.course owned₄).mono fun c s₅ h => ?_
      obtain ⟨rfl, pool, ⟨more₅, released⟩, none, notes⟩ := h
      refine ⟨⟨_, completed, released, measured.samples, measured.copies, measured.repeats, measured.all⟩, none, ?_⟩
      intro hr
      obtain ⟨hfilled, hnotes⟩ := told hr
      have sum : source'.stagingWrites + destination'.stagingWrites = 2 := by
        rw [(done hfilled).2, sourceWrites, writes]
      rw [notes, hnotes, sum, pool]

/-- How a measurement comes out that makes the calls `events` and notes the timed copies `seen`. -/
structure Outcome (arguments : CopyArguments) (timing : Timing) (before : Session × Statistics)
    (events : List Event) (seen : List Sighting) (r : Except Failure Unit) (after : Session × Statistics) :
    Prop where
  trace : after.1.machine.trace.toList = before.1.machine.trace.toList ++ events
  /-- There is one sample for each timed copy that succeeded. -/
  samples : after.2.samples = before.2.samples ++ arguments.samples timing 0 seen.length
  /-- Those are all copies that were waited for, but for the two that fill the buffers. -/
  copies : seen.length = events.countP Event.completes - 2
  /-- Each of them moved the contents onto themselves. -/
  repeats : ∃ source destination, ∀ sighting ∈ seen, sighting.1.1.machine.Repeats source destination
    arguments.size arguments.octets sighting.2.1.machine
  /-- No buffer and no memory is left. -/
  released : after.1.machine.bufferSizes.keys = [] ∧ after.1.machine.memories.keys = []
  /-- It succeeds when no call fails, after two staging writes and without flushing a slot on the way. -/
  succeeded : r = .ok () → (∀ event ∈ events, event.fails = false) ∧ seen.length = arguments.iterations ∧
    after.1.machine.counters.fencedSubmits = before.1.machine.counters.fencedSubmits + (2 + arguments.iterations) ∧
      events.countP Event.maps = 2 ∧ after.1.pool.autoFlushes = 0 ∧
        after.1.machine.notes.back? = some (endNote 2 0)
  /-- It fails with the error of what stopped it first, and from there on only gives things back. -/
  failed : ∀ f, r = .error f → ∃ (smooth more : List Event) (obstacle : Obstacle) (e : Error),
    f = .error e ∧ obstacle.error? = some e ∧ (e.isFatal = true ↔ obstacle.ofCreation = true) ∧
      events = smooth ++ obstacle.events ++ more ∧ (∀ event ∈ smooth, event.fails = false) ∧
        ∀ event ∈ more, event.releases = true

theorem Measured.outcome {completed : Nat} (h : Measured arguments timing before more completed seen r after)
    (none : after.1.machine.Owned [] 0) (flushes : before.1.pool.autoFlushes = 0)
    (notes : r = .ok () → after.1.machine.notes.back? = some (endNote 2 after.1.pool.autoFlushes)) :
    Outcome arguments timing before more seen r after := by
  have course := h.course
  refine ⟨course.trace, h.samples, ?_, h.repeats, ⟨none.liveBuffers.eq_nil, none.liveMemories.eq_nil⟩, ?_, ?_⟩
  · rw [course.completes]
    exact h.copies
  · rintro rfl
    obtain ⟨fenced, maps⟩ := course.counted () rfl
    obtain ⟨all, completed⟩ := h.all rfl
    refine ⟨course.halted.smooth, all, ?_, maps, course.autoFlushes.trans flushes, ?_⟩
    · rw [course.fenced, fenced, completed]
    · rw [notes rfl, course.autoFlushes, flushes]
  · rintro f rfl
    cases course.halted with
    | halted smooth error released =>
      exact ⟨_, _, _, _, rfl, error, Obstacle.isFatal_iff error, rfl, smooth, released⟩

/-- On a pool that was just made, nothing is owned and nothing waits. -/
theorem stage_of_create {device : Device} {queue : Handle} {depth : Nat} {family : UInt32} {level : Int}
    {profile : MemoryProfile} {schedule : Schedule} {lostSubmits : List Handle} {lostWaits : Bool} {m : Machine}
    {pool : CommandPool} (created : CommandPool.create device queue depth family level
      { profile, schedule, lostSubmits, lostWaits } = .ok pool m)
    (enough : arguments.size ≤ Machine.requirement profile arguments.size) : Stage arguments [] [] ⟨m, pool⟩ := by
  have balanced : (Workspace.mk ⟨m, pool⟩ {}).Balanced 0 :=
    Workspace.New.balanced ⟨rfl, _, _, _, _, _, _, _, _, _, created⟩
  obtain ⟨-, depth_ne, hpool, hmachine⟩ := CommandPool.create_eq created
  have frame : m.profile = profile ∧ m.recorded = {} := by
    rw [hmachine]
    unfold CommandPool.created Machine.pooled
    rw [Machine.announced_frame]
    exact ⟨rfl, rfl⟩
  refine ⟨⟨(CommandPool.slots_of_create created).1, ?_, fun b => ?_⟩, balanced, List.forall_mem_nil _,
    List.forall_mem_nil _, ?_⟩
  · rw [hpool]
    simpa [CommandPool.fresh] using Nat.pos_of_ne_zero depth_ne
  · rw [Machine.work, frame.2]
    rfl
  · rw [frame.1]
    exact enough

/-- However a measurement on a pool that was just made comes out, it is as a measurement should. -/
theorem measure_outcome {device : Device} {queue : Handle} {depth : Nat} {family : UInt32} {level : Int}
    {profile : MemoryProfile} {schedule : Schedule} {lostSubmits : List Handle} {lostWaits : Bool} {m : Machine}
    {pool : CommandPool} (created : CommandPool.create device queue depth family level
      { profile, schedule, lostSubmits, lostWaits } = .ok pool m)
    (enough : arguments.size ≤ Machine.requirement profile arguments.size) (timing : Timing)
    (statistics : Statistics) :
    (measure arguments timing).Ends (⟨m, pool⟩, statistics) fun r s' => ∃ seen events,
      ((measureWatched arguments timing).Ends ((⟨m, pool⟩, statistics), []) fun r' w => r' = r ∧ w = (s', seen)) ∧
        Outcome arguments timing (⟨m, pool⟩, statistics) events seen r s' := by
  have stage : Stage arguments [] [] ⟨m, pool⟩ := stage_of_create created enough
  have flushes : pool.autoFlushes = 0 := by
    obtain ⟨-, -, rfl, -⟩ := CommandPool.create_eq created
    rfl
  refine (observes_measureWatched.ends (ends_measureWatched stage statistics)).mono fun r s' h => ?_
  obtain ⟨seen, watched, ⟨more, completed, measured⟩, none, notes⟩ := h
  exact ⟨seen, more, watched, measured.outcome none flushes notes⟩

/-- Where the second staging buffer cannot be made, the measurement fails for good and has no sample. -/
theorem measure_outcome_losesFourthBuffer : ∃ m pool,
    CommandPool.create { memoryTypes := [1, 6] } 1 3 0 0
        { schedule := .ofRules [{ point := .createBuffer, first := 4 }] } = .ok pool m ∧
      (measure { size := 16 } (fun _ => .zero)).Ends (⟨m, pool⟩, {}) fun r s' => ∃ seen events,
        Outcome { size := 16 } (fun _ => .zero) (⟨m, pool⟩, {}) events seen r s' ∧ s'.2.samples = [] ∧
          r = .error (.error (.configuration (.callFailed Entrypoint.createBuffer.symbol .deviceLost))) := by
  let device : Device := { memoryTypes := [1, 6] }
  let start : Machine := { schedule := .ofRules [{ point := .createBuffer, first := 4 }] }
  let pool := CommandPool.fresh device 1 3 0 1
  let m := CommandPool.created start device 3 0 0
  have created : CommandPool.create device 1 3 0 0 start = .ok pool m :=
    CommandPool.create_ok rfl 1 (by decide) 0 0 (by decide +kernel) (by decide +kernel)
  have failed : (measure { size := 16 } (fun _ => .zero)).Ends (⟨m, pool⟩, {}) fun r s' => s'.2.samples = [] ∧
      r = .error (.error (.configuration (.callFailed Entrypoint.createBuffer.symbol .deviceLost))) := by
    decide +kernel
  refine ⟨m, pool, created, ((measure_outcome created (by decide +kernel) _ _).and failed).mono fun r s' h => ?_⟩
  obtain ⟨⟨seen, events, -, outcome⟩, known⟩ := h
  exact ⟨seen, events, outcome, known⟩

end CopyBuffer

end CopyBench
