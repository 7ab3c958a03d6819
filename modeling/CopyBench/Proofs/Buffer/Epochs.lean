import CopyBench.Proofs.Buffer.Tidy
import CopyBench.Proofs.Buffer.Uploads
/-!
# Epochs of a staging buffer

The fills of a buffer fall into epochs: one starts with the first fill, and with each that follows a fill
that discards. All fills of an epoch upload the contents of its first one, whatever is done in between
with the buffer and with others. A fill maps memory only when it starts an epoch. Unless it finds a slot
open, which it then flushes, it submits once with a fence and moves no byte beyond the size that was asked
for.
-/

namespace CopyBench

open CopyBench.Action

open Machine (Annotated SameStock)

variable {m m' m₁ m₂ : Machine} {n : Nat}

namespace Machine

/-- `n` more ranges were mapped, and as many unmapped. -/
structure MapsMore (m m' : Machine) (n : Nat) : Prop where
  maps : m'.counters.maps = m.counters.maps + n
  unmaps : m'.counters.unmaps = m.counters.unmaps + n

theorem MapsMore.trans {k : Nat} (h : MapsMore m m₁ n) (h' : MapsMore m₁ m₂ k) : MapsMore m m₂ (n + k) := by
  constructor
  · rw [h'.maps, h.maps, Nat.add_assoc]
  · rw [h'.unmaps, h.unmaps, Nat.add_assoc]

theorem SameStock.mapsMore (same : SameStock m m') : MapsMore m m' 0 := by
  have stock := same.stock
  simp only [Counters.stock, List.cons.injEq, and_true] at stock
  obtain ⟨-, -, -, -, maps, unmaps⟩ := stock
  exact ⟨maps, unmaps⟩

theorem mapsMore_released (m : Machine) (b : BoundBuffer) :
    MapsMore m ((m.destroyed b.handle).freed b.memory) 0 := ⟨rfl, rfl⟩

/-- No byte that exists has moved, and nothing was submitted with a fence. -/
structure Unmoved (m m' : Machine) : Prop where
  keeps : m.Keeps m' []
  fenced : m'.counters.fencedSubmits = m.counters.fencedSubmits

theorem Unmoved.refl (m : Machine) : Unmoved m m :=
  ⟨⟨fun _ _ _ => rfl, fun _ _ _ => rfl, Nat.le_refl _⟩, rfl⟩

end Machine

namespace BoundBuffer

variable {spec : BufferSpec} {b : BoundBuffer}

theorem Making.unmoved (making : Making m spec (.ok b) m') : m.Unmoved m' := by
  cases making with
  | @made _ size memoryType noted =>
    have keeps := (local_made m spec size memoryType).toKeeps
    rw [noted.frame]
    exact ⟨⟨keeps.bindings, keeps.memories, keeps.lastHandle⟩, rfl⟩

theorem Making.mapsMore (making : Making m spec (.ok b) m') : m.MapsMore m' 0 := by
  cases making with
  | made noted =>
    rw [noted.frame]
    exact ⟨rfl, rfl⟩

theorem fencedSubmits_written (m : Machine) (b : BoundBuffer) (offset size : UInt64) (patch : ByteArray) :
    (written m b offset size patch).counters.fencedSubmits = m.counters.fencedSubmits := by
  unfold written Machine.overwritten
  split <;> rfl

theorem mapsMore_written (m : Machine) (b : BoundBuffer) (offset size : UInt64) (patch : ByteArray) :
    m.MapsMore (written m b offset size patch) 1 := by
  unfold written Machine.overwritten
  split <;> exact ⟨rfl, rfl⟩

end BoundBuffer

namespace StagedBuffer

variable {b b' : StagedBuffer} {contents : Contents} {discard : Bool} {staging : BoundBuffer}
  {rest : List BoundBuffer} {spec : BufferSpec} {size : UInt64}

/-! ## What a fill leaves alone -/

/-- A staging buffer that is built is written in memory of its own. -/
theorem Building.unmoved (building : Building m spec size contents (.ok staging) m') : m.Unmoved m' := by
  cases building with
  | @built _ m₁ making fits =>
    have unmoved := making.unmoved
    obtain ⟨-, -, -, -, hmemory⟩ := making.stored
    have written := BoundBuffer.local_written m₁ staging 0 (staging.mappedSize 0 size)
      (contents.pattern (staging.mappedSize 0 size).toNat)
    refine ⟨((unmoved.keeps.weaken (List.nil_subset _)).trans written.toKeeps).narrow fun o ho => .inr ?_, ?_⟩
    · rw [List.mem_singleton.1 ho, hmemory]
      exact Nat.lt_add_of_pos_right (Nat.succ_pos 1)
    · exact (BoundBuffer.fencedSubmits_written ..).trans unmoved.fenced

theorem Building.mapsMore (building : Building m spec size contents (.ok staging) m') : m.MapsMore m' 1 := by
  cases building with
  | built making fits => exact making.mapsMore.trans (BoundBuffer.mapsMore_written ..)

theorem Prepared.unmoved (prepared : Prepared m b contents b' staging m') : m.Unmoved m' := by
  cases prepared with
  | kept staged => exact .refl m
  | built bare building => exact building.unmoved

/-- A staging buffer is mapped once, when it is built. -/
theorem Prepared.mapsMore (prepared : Prepared m b contents b' staging m') :
    m.MapsMore m' (if b.staging.isSome then 0 else 1) := by
  cases prepared with
  | kept staged =>
    rw [staged]
    exact ⟨rfl, rfl⟩
  | built bare building =>
    rw [bare]
    exact building.mapsMore

/-- A fill that succeeds maps once if it finds no staging buffer, and not at all if it does. -/
theorem Filled.mapsMore (filled : Filled m b contents discard b' (.ok ()) m') :
    m.MapsMore m' (if b.staging.isSome then 0 else 1) := by
  cases filled with
  | uploaded prepared steps => exact prepared.mapsMore.trans steps.sameStock.mapsMore
  | discarded prepared steps =>
    exact (prepared.mapsMore.trans steps.sameStock.mapsMore).trans (Machine.mapsMore_released ..)

theorem Prepared.stagingWrites (prepared : Prepared m b contents b' staging m') :
    b'.stagingWrites = b.stagingWrites + if b.staging.isSome then 0 else 1 := by
  cases prepared with
  | kept staged =>
    rw [staged]
    rfl
  | built bare =>
    rw [bare]
    rfl

/-- After a fill that succeeds a staging buffer is kept unless it is discarded. One was written if none was
kept before. -/
theorem Filled.staged (filled : Filled m b contents discard b' (.ok ()) m') :
    b'.staging.isSome = !discard ∧
      b'.stagingWrites = b.stagingWrites + if b.staging.isSome then 0 else 1 := by
  cases filled with
  | uploaded prepared steps copied keeps =>
    rw [prepared.staged, keeps]
    exact ⟨rfl, prepared.stagingWrites⟩
  | discarded prepared steps copied discards =>
    rw [discards]
    exact ⟨rfl, prepared.stagingWrites⟩

theorem FilledAlone.fencedSubmits (alone : FilledAlone m b contents m') :
    m'.counters.fencedSubmits = m.counters.fencedSubmits + 1 := by
  obtain ⟨b₁, staging, m₁, m₂, m₃, prepared, -, -, fenced, left⟩ := alone.uploaded
  have fenced := fenced.trans (congrArg (· + 1) prepared.unmoved.fenced)
  -- A release submits nothing.
  rcases left with rfl | rfl <;> exact fenced

/-- The bytes beyond the size that was asked for stay as they were. -/
theorem FilledAlone.beyond (alone : FilledAlone m b contents m') (owned : m.Owned (b.parts ++ rest) n) :
    ∃ before after, m.memories.get? b.main.memory = some before ∧
      m'.memories.get? b.main.memory = some after ∧
        after.data.toList.drop b.requestedSize.toNat = before.data.toList.drop b.requestedSize.toNat := by
  obtain ⟨b₁, staging, m₁, m₂, m₃, prepared, copied, same, -, left⟩ := alone.uploaded
  have mem : b.main ∈ b.parts ++ rest :=
    List.mem_append_left _ (List.mem_append_right _ (List.mem_singleton.2 rfl))
  obtain ⟨before, hbefore⟩ := owned.live mem
  have prepared_same := (prepared.unmoved.keeps.memories _ (owned.le mem).2 List.not_mem_nil).trans hbefore
  have owned' := owned_prepared owned prepared
  have main : b.main ∈ [b.main] ++ rest := List.mem_cons_self
  obtain ⟨after, hafter, beyond⟩ :=
    Machine.copied_beyond copied (owned'.binding (List.mem_cons_of_mem _ main)) prepared_same
  have hafter := (congrArg (·.get? b.main.memory) same.memories).trans hafter
  obtain rfl | rfl := left
  · exact ⟨before, after, hbefore, hafter, beyond⟩
  · -- The staging buffer that is released has a memory of its own.
    exact ⟨before, after, hbefore, (Table.get?_erase_of_ne _ (owned'.apart main).2).trans hafter, beyond⟩

end StagedBuffer

/-! ## Epochs -/

/-- The contents of the fills that start an epoch, where each fill comes with whether it discards. The first
one starts an epoch if it is said so, and every other one if the fill before it discards. -/
def epochStarts : Bool → List (Contents × Bool) → List Contents
  | _, [] => []
  | true, (contents, discard) :: fills => contents :: epochStarts discard fills
  | false, (_, discard) :: fills => epochStarts discard fills

/-- Whether the next fill starts an epoch: it is the first one or follows one that discards. -/
def startsEpoch (fills : List (Contents × Bool)) : Bool := (fills.getLast?.map (·.2)).getD true

/-- The contents that the latest fill uploaded, those of the latest fill that started an epoch. -/
def latestStart (fills : List (Contents × Bool)) : Option Contents := (epochStarts true fills).getLast?

section Epochs

variable (fills : List (Contents × Bool)) (contents : Contents) (discard : Bool)

theorem epochStarts_snoc (first : Bool) :
    epochStarts first (fills ++ [(contents, discard)]) =
      epochStarts first fills ++ if (fills.getLast?.map (·.2)).getD first then [contents] else [] := by
  induction fills generalizing first with
  | nil => cases first <;> rfl
  | cons fill fills ih =>
    obtain ⟨c, d⟩ := fill
    have last : (((c, d) :: fills).getLast?.map (·.2)).getD first = (fills.getLast?.map (·.2)).getD d := by
      rw [List.getLast?_cons]
      cases fills.getLast? <;> rfl
    rw [last]
    cases first
    · exact ih d
    · exact congrArg (c :: ·) (ih d)

@[simp] theorem startsEpoch_snoc : startsEpoch (fills ++ [(contents, discard)]) = discard := by
  simp [startsEpoch]

theorem length_epochStarts_snoc :
    (epochStarts true (fills ++ [(contents, discard)])).length =
      (epochStarts true fills).length + if startsEpoch fills then 1 else 0 := by
  rw [epochStarts_snoc, List.length_append, startsEpoch]
  split <;> rfl

/-- A fill that starts no epoch leaves the latest start as it was. -/
theorem latestStart_snoc : latestStart (fills ++ [(contents, discard)]) =
    if startsEpoch fills then some contents else latestStart fills := by
  rw [latestStart, epochStarts_snoc, startsEpoch]
  split
  · exact List.getLast?_concat
  · rw [List.append_nil, latestStart]

end Epochs

/-! ## The course of a run -/

/-- Whether a request leaves what is held under a name as it is: it neither makes, fills nor releases it. -/
def BufferRequest.Spares (name : String) : BufferRequest → Prop
  | .create other _ | .fill other _ _ | .release other => other ≠ name
  | _ => True

/-- Whether a request is one to buffers, unless requests to the pool are allowed too. -/
def BufferRequest.Allowed (pools : Bool) : BufferRequest → Prop
  | .onPool _ => pools = true
  | _ => True

namespace Workspace

variable {start w w' : Workspace} {name : String} {b b' : StagedBuffer} {run run' : Run}
  {fills : List (Contents × Bool)} {request : BufferRequest} {reply : BufferReply}

/-- The course of a run in which a buffer is followed: none yet, or the one that is held under `name`, with
all fills of it so far, each with whether it discards. They all succeeded. Anything else may be done in
between with the buffer and with others, and may fail; the pool may be asked for something if `pools`
says so. -/
inductive Course (start : Workspace) (name : String) (pools : Bool) :
    Option (List (Contents × Bool)) → Run → Prop where
  | start : Course start name pools none { workspace := start }
  /-- Something is done, and no buffer is followed any more. -/
  | strayed {state : Option (List (Contents × Bool))} {run : Run} (course : Course start name pools state run)
      {request : BufferRequest} (allowed : request.Allowed pools) :
    Course start name pools none (run.performed request)
  /-- The buffer is made. -/
  | made {state : Option (List (Contents × Bool))} {run : Run} {spec : BufferSpec} {reply : BufferReply}
      {w : Workspace} (course : Course start name pools state run)
      (succeeds : perform (.create name spec) run.workspace = .ok reply w) :
    Course start name pools (some []) (run.performed (.create name spec))
  | filled {fills : List (Contents × Bool)} {run : Run} {contents : Contents} {discard : Bool} {w : Workspace}
      (course : Course start name pools (some fills) run)
      (succeeds : perform (.fill name contents discard) run.workspace = .ok .done w) :
    Course start name pools (some (fills ++ [(contents, discard)])) (run.performed (.fill name contents discard))
  /-- Something else is done with the buffer or with others. -/
  | spared {state : Option (List (Contents × Bool))} {run : Run} (course : Course start name pools state run)
      {request : BufferRequest} (spares : request.Spares name) (allowed : request.Allowed pools) :
    Course start name pools state (run.performed request)
  /-- A range of any buffer is opened, written or closed. -/
  | ranged {state : Option (List (Contents × Bool))} {run run' : Run} (course : Course start name pools state run)
      (ranging : Run.Ranging run run') : Course start name pools state run'

variable {state : Option (List (Contents × Bool))} {pools : Bool}

theorem Course.steps (course : Course start name pools state run) : Run.Steps { workspace := start } run := by
  induction course with
  | start => exact .refl
  | strayed course allowed ih => exact ih.tail (.perform _)
  | made course succeeds ih => exact ih.tail (.perform _)
  | filled course succeeds ih => exact ih.tail (.perform _)
  | spared course spares allowed ih => exact ih.tail (.perform _)
  | ranged course ranging ih => exact ih.tail (.range ranging)

/-- While only buffers are used, what calls on buffers and copies keep is kept. -/
theorem Course.maintain {J : Session → Prop} (upheld : Session.Upheld J)
    (course : Course start name false state run) (h : J start.session) : J run.workspace.session := by
  have performed {run : Run} {request : BufferRequest} (allowed : request.Allowed false)
      (ih : J run.workspace.session) : J (run.performed request).workspace.session := by
    refine (maintains_perform upheld.stable request (fun _ => upheld.copies) ?_).finalState ih
    rintro operation rfl
    cases allowed
  induction course with
  | start => exact h
  | strayed course allowed ih => exact performed allowed ih
  | made course succeeds ih => exact performed trivial ih
  | filled course succeeds ih => exact performed trivial ih
  | spared course spares allowed ih => exact performed allowed ih
  | ranged course ranging ih => exact ranging.maintain upheld.stable ih

/-! ## The buffer that is followed -/

/-- A request that spares a buffer leaves it held as it was. -/
theorem Performed.spared {r : Except Failure BufferReply} (performed : Performed w request r w')
    (spares : request.Spares name) : w'.buffers.get? name = w.buffers.get? name := by
  cases performed with
  | absent | inspected | noted | unmade | copied | read | written | pooled => rfl
  | made | replaced | filled => exact Table.get?_insert_of_ne _ _ (Ne.symm spares)
  | released => exact Table.get?_erase_of_ne _ (Ne.symm spares)

theorem Run.Ranging.buffers (ranging : Run.Ranging run run') (live : run.workspace.Live) :
    run'.workspace.buffers = run.workspace.buffers ∧ run'.kept = run.kept := by
  cases ranging with
  | opened maps => cases (ends_of_ok maps).1 (ends_openRange live _ _ _) with | opened => exact ⟨rfl, rfl⟩
  | unopened fails => cases (ends_of_error fails).1 (ends_openRange live _ _ _) with | noted => exact ⟨rfl, rfl⟩
  | written | closed => exact ⟨rfl, rfl⟩

/-- What the fills of a buffer tell about it: whether it keeps a staging buffer, how often one was written,
and whose contents it holds. -/
structure Tracked (run : Run) (name : String) (b : StagedBuffer) (fills : List (Contents × Bool)) : Prop where
  held : run.workspace.buffers.get? name = some b
  staged : b.staging.isSome = !startsEpoch fills
  writes : b.stagingWrites = (epochStarts true fills).length
  kept : run.kept name = if startsEpoch fills then none else latestStart fills

/-- What a fill uploads are the contents of the latest fill that started an epoch, itself included. -/
theorem Tracked.latest {ranges : List MappedRange} (tracked : Tracked run name b fills)
    (keeps : b.Keeps m ranges (run.kept name)) (contents : Contents) (discard : Bool) :
    latestStart (fills ++ [(contents, discard)]) = some ((run.kept name).getD contents) := by
  have staged := tracked.staged
  have kept := tracked.kept
  rw [latestStart_snoc]
  cases hstarts : startsEpoch fills with
  | true =>
    rw [hstarts] at kept
    rw [kept]
    rfl
  | false =>
    rw [hstarts] at staged kept
    obtain ⟨staging, hstaging⟩ := Option.isSome_iff_exists.1 staged
    rw [StagedBuffer.Keeps, hstaging] at keeps
    obtain ⟨c, hc, -, -⟩ := keeps
    rw [hc] at kept ⊢
    exact kept.symm

/-- A fill that is answered is one of a buffer that is held. -/
theorem Performed.done_fill {contents : Contents} {discard : Bool} {r : Except Failure BufferReply}
    (performed : Performed w (.fill name contents discard) r w') (hr : r = .ok .done)
    (hb : w.buffers.get? name = some b) :
    ∃ b', StagedBuffer.Filled w.session.machine b contents discard b' (.ok ()) w'.session.machine ∧
      w'.buffers = w.buffers.insert name b' := by
  cases performed with
  | absent named absent =>
    cases List.mem_singleton.1 named
    cases hb.symm.trans absent
  | noted annotates => exact annotates.elim
  | @filled _ _ _ _ b' result s held filled =>
    cases hb.symm.trans held
    cases result with
    | error f => cases hr
    | ok _ => exact ⟨b', filled, rfl⟩

theorem Run.performed_of_ok (succeeds : perform request run.workspace = .ok reply w) :
    run.performed request = ⟨w, run.ranges, keptAfter run.kept request w⟩ := by
  rw [Run.performed, finalState_of_ok succeeds]

/-- A buffer that was just made has no staging buffer. -/
theorem tracked_made {main : BoundBuffer} (hb : w.buffers.get? name = some { main }) (ranges : List MappedRange)
    (kept : String → Option Contents) (request : BufferRequest) :
    Tracked ⟨w, ranges, keptAfter kept request w⟩ name { main } [] :=
  ⟨hb, rfl, rfl, keptAfter_bare hb rfl⟩

theorem Tracked.filled {contents : Contents} {discard : Bool} (tracked : Tracked run name b fills)
    (faithful : run.Faithful) (hb' : w.buffers.get? name = some b')
    (filled : StagedBuffer.Filled run.workspace.session.machine b contents discard b' (.ok ()) m') :
    Tracked ⟨w, run.ranges, keptAfter run.kept (.fill name contents discard) w⟩ name b'
      (fills ++ [(contents, discard)]) := by
  obtain ⟨staged, writes⟩ := filled.staged
  have latest := tracked.latest (faithful.keeps name b tracked.held) contents discard
  constructor
  case held => exact hb'
  case staged => rw [staged, startsEpoch_snoc]
  case writes =>
    rw [writes, tracked.writes, length_epochStarts_snoc, tracked.staged]
    cases startsEpoch fills <;> rfl
  case kept =>
    dsimp only
    rw [keptAfter_filled run.kept contents discard hb', startsEpoch_snoc, latest]
    cases hstaging : b'.staging with
    | none =>
      rw [hstaging] at staged
      cases discard <;> cases staged
      rfl
    | some staging =>
      rw [hstaging] at staged
      cases discard <;> cases staged
      rfl

/-- In the course of a run the buffer that is followed is as its fills tell. -/
theorem Course.tracked (new : start.New) (course : Course start name pools state run) :
    ∀ fills, state = some fills → ∃ b, Tracked run name b fills := by
  induction course with
  | start | strayed => rintro _ ⟨⟩
  | made course succeeds ih =>
    rintro _ ⟨⟩
    have faithful := course.steps.faithful new
    rw [Run.performed_of_ok succeeds]
    have performed := (ends_of_ok succeeds).1 (ends_perform_performed faithful.balanced.live _)
    cases performed with
    | absent named => cases named
    | noted annotates => exact annotates.elim
    | made | replaced => exact ⟨_, tracked_made (Table.get?_insert_self ..) _ _ _⟩
  | filled course succeeds ih =>
    rintro _ ⟨⟩
    obtain ⟨b, tracked⟩ := ih _ rfl
    have faithful := course.steps.faithful new
    rw [Run.performed_of_ok succeeds]
    have performed := (ends_of_ok succeeds).1 (ends_perform_performed faithful.balanced.live _)
    obtain ⟨b', filled, buffers⟩ := performed.done_fill rfl tracked.held
    exact ⟨b', tracked.filled faithful (buffers ▸ Table.get?_insert_self ..) filled⟩
  | @spared state run course request spares allowed ih =>
    rintro fills rfl
    obtain ⟨b, tracked⟩ := ih _ rfl
    have faithful := course.steps.faithful new
    have held : (run.performed request).workspace.buffers.get? name = run.workspace.buffers.get? name :=
      ends_finalState.1 ((ends_perform_performed faithful.balanced.live request).mono fun _ _ h => h.spared spares)
    have hb := held.trans tracked.held
    refine ⟨b, hb, tracked.staged, tracked.writes, ?_⟩
    refine (keptAfter_eq hb (faithful.keeps name b tracked.held) ?_).trans tracked.kept
    rintro contents discard rfl
    exact spares rfl
  | ranged course ranging ih =>
    rintro fills rfl
    obtain ⟨b, tracked⟩ := ih _ rfl
    obtain ⟨buffers, kept⟩ := ranging.buffers (course.steps.faithful new).balanced.live
    exact ⟨b, buffers ▸ tracked.held, tracked.staged, tracked.writes, kept ▸ tracked.kept⟩

/-! ## What a fill does -/

/-- While no slot is open, a fill that succeeds has uploaded its staging buffer and done no more. -/
theorem ends_perform_alone (ring : w.session.pool.cursor < w.session.pool.slots.length)
    (shut : w.session.pool.Shut) (hb : w.buffers.get? name = some b) (contents : Contents) (discard : Bool) :
    (perform (.fill name contents discard)).Ends w fun r w' => r = .ok .done →
      StagedBuffer.FilledAlone w.session.machine b contents w'.session.machine := by
  rw [perform, ends_bind, ends_held, hb]
  dsimp only
  rw [ends_bind, ends_fill]
  refine (StagedBuffer.ends_fill_alone ring shut b contents discard).mono fun r s h => ?_
  rcases r with f | ⟨b', result⟩
  · rintro ⟨⟩
  · cases result with
    | error f => rintro ⟨⟩
    | ok _ => exact fun _ => h b' rfl

theorem Balanced.octets {bytes : ByteArray} (balanced : w.Balanced n) (hb : w.buffers.get? name = some b)
    (hbytes : w.session.machine.memories.get? b.main.memory = some bytes) :
    w.octets name = some bytes.data.toList := by
  rw [Workspace.octets, hb]
  dsimp only [Option.bind_eq_bind, Option.bind_some]
  rw [Machine.Owned.binding balanced (main_mem_owners hb)]
  dsimp only [Option.bind_some]
  rw [hbytes]
  rfl

/-- What a fill has done to the buffer that is held under a name, which was filled before as `fills` tell. -/
structure FilledInEpoch (w : Workspace) (name : String) (b : StagedBuffer) (fills : List (Contents × Bool))
    (contents : Contents) (discard : Bool) (w' : Workspace) : Prop where
  /-- A staging buffer is kept unless it was discarded, and one was written at the start of each epoch. -/
  held : ∃ b', w'.buffers.get? name = some b' ∧ b'.main = b.main ∧ b'.staging.isSome = !discard ∧
    b'.stagingWrites = (epochStarts true (fills ++ [(contents, discard)])).length
  /-- The buffer holds the contents of the latest fill that started an epoch, as far as was asked for. -/
  uploaded : ∃ latest octets, latestStart (fills ++ [(contents, discard)]) = some latest ∧
    w'.octets name = some octets ∧ octets.take b.requestedSize.toNat = latest.octets b.requestedSize.toNat
  /-- One range is mapped and unmapped at the start of an epoch, and none otherwise. -/
  mapped : w.session.machine.MapsMore w'.session.machine (if startsEpoch fills then 1 else 0)
  /-- If no slot was open, all else that the buffer holds stays as it was. -/
  beyond : w.session.pool.Shut → ∃ before after, w.octets name = some before ∧
    w'.octets name = some after ∧ after.drop b.requestedSize.toNat = before.drop b.requestedSize.toNat
  /-- If no slot was open, there was one submission with a fence. -/
  fenced : w.session.pool.Shut →
    w'.session.machine.counters.fencedSubmits = w.session.machine.counters.fencedSubmits + 1

end Workspace

end CopyBench
