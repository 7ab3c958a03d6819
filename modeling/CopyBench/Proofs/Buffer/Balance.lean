import CopyBench.Proofs.Buffer.Requests
/-!
# Runs leave nothing behind

After every request of a run, whatever failed, the machine has one buffer and one memory for each device
buffer that is held and for each staging buffer that is kept, and no others. Nothing is given back twice,
a buffer that is released gives back its staging buffer first, and when nothing is held any more all that
was made was given back.
-/

namespace CopyBench

open CopyBench.Action

namespace Workspace

/-- The bound buffers of all device buffers in a table. -/
def owners (buffers : Table String StagedBuffer) : List BoundBuffer := buffers.entries.flatMap (·.2.parts)

section Owners

variable {buffers : Table String StagedBuffer} {name : String} {b : StagedBuffer}

theorem owners_perm (h : buffers.get? name = some b) :
    (owners buffers).Perm (b.parts ++ owners (buffers.erase name)) :=
  (Table.entries_perm_erase h).flatMap_right _

theorem owners_insert (buffers : Table String StagedBuffer) (name : String) (b : StagedBuffer) :
    owners (buffers.insert name b) = b.parts ++ owners (buffers.erase name) := rfl

theorem owners_erase_self (h : buffers.get? name = none) : owners (buffers.erase name) = owners buffers := by
  rw [Table.erase_eq_self h]

/-- The main buffer of a device buffer that is held is an owner. -/
theorem main_mem_owners (h : buffers.get? name = some b) : b.main ∈ owners buffers :=
  (owners_perm h).mem_iff.2 (List.mem_append_left _ (List.mem_append_right _ (List.mem_singleton.2 rfl)))

end Owners

/-- The machine has what the held buffers consist of and no more, and `ranges` mappings are open. -/
def Balanced (w : Workspace) (ranges : Nat) : Prop := w.session.machine.Owned (owners w.buffers) ranges

variable {start w : Workspace} {run : Run} {n : Nat} {name : String} {b : StagedBuffer}

/-- A buffer that is held can be taken apart from the others. -/
theorem Balanced.split (h : w.Balanced n) (hb : w.buffers.get? name = some b) :
    w.session.machine.Owned (b.parts ++ owners (w.buffers.erase name)) n :=
  Machine.Owned.perm h (owners_perm hb)

theorem Balanced.live (h : w.Balanced n) : w.Live := fun name b hb => by
  obtain ⟨bytes, hbytes⟩ := Machine.Owned.live h (main_mem_owners hb)
  exact Table.contains_of_mem_keys (Table.mem_keys.2 ⟨bytes, hbytes⟩)

/-- A buffer that takes the place of another is owned once the other was released. -/
theorem Balanced.replace {main : BoundBuffer} {m : Machine} {spec : BufferSpec} (h : w.Balanced n)
    (hb : w.buffers.get? name = some b) (making : BoundBuffer.Making w.session.machine spec (.ok main) m) :
    (m.without b.parts).Owned (owners (w.buffers.insert name { main })) n := by
  have apart : (main :: owners w.buffers).Perm (b.parts ++ main :: owners (w.buffers.erase name)) :=
    ((owners_perm hb).cons main).trans List.perm_middle.symm
  exact (Machine.Owned.perm (Machine.Owned.making h making) apart).without

/-- However a request ends, it leaves a workspace balanced. -/
theorem Balanced.performed {request : BufferRequest} {r : Except Failure BufferReply} {w' : Workspace}
    (h : w.Balanced n) (performed : Performed w request r w') : w'.Balanced n := by
  cases performed with
  | absent | inspected => exact h
  | noted annotates annotated => exact Machine.Owned.same h annotated.sameStock
  | unmade making => exact Machine.Owned.making h making
  | @made name _ main s absent making =>
    have owned := Machine.Owned.making h making
    unfold Balanced
    rw [owners_insert, owners_erase_self absent]
    exact owned
  | replaced held making => exact h.replace held making
  | filled held filled => exact StagedBuffer.owned_filled (h.split held) filled
  | copied held sourceHeld steps => exact Machine.Owned.copySteps h steps
  | read held => exact (Machine.Inventory.mapped h _ _ _).unmapped _
  | written held patch =>
    exact ((Machine.Inventory.mapped h _ _ _).same (Machine.sameStock_overwritten ..)).unmapped _
  | released held => exact (h.split held).without
  | pooled steps => exact Machine.Owned.same h (Machine.Steps.sameStock steps)

/-- A range that is opened is one more that is open. -/
theorem Balanced.mapping (h : w.Balanced n) {r : Except Failure (Option MappedRange)} {w' : Workspace} :
    Mapping w r w' → w'.Balanced (match r with
      | .ok (some _) => n + 1
      | _ => n) := by
  intro mapping
  cases mapping with
  | absent => exact h
  | noted annotated => exact Machine.Owned.same h annotated.sameStock
  | opened held => exact Machine.Inventory.mapped h _ _ _

/-! ## Runs -/

/-- Where a pool was just made on a new machine, nothing is in stock. -/
theorem New.balanced (new : start.New) : start.Balanced 0 := by
  obtain ⟨bare, profile, schedule, lostSubmits, lostWaits, device, queue, depth, family, level, created⟩ := new
  obtain ⟨-, -, -, hmachine⟩ := CommandPool.create_eq created
  unfold Balanced
  rw [bare, hmachine]
  unfold CommandPool.created Machine.pooled
  rw [Machine.announced_frame]
  unfold Machine.announced
  cases device.route <;> exact ⟨.refl _, .refl _, .refl _, .nil, nofun, rfl, rfl, rfl⟩

theorem Run.Ranging.balanced {run' : Run} (ranging : Run.Ranging run run')
    (h : run.workspace.Balanced run.ranges.length) : run'.workspace.Balanced run'.ranges.length := by
  cases ranging with
  | opened maps => exact h.mapping ((ends_of_ok maps).1 (ends_openRange h.live _ _ _))
  | unopened fails => exact h.mapping ((ends_of_error fails).1 (ends_openRange h.live _ _ _))
  | written mem bytes =>
    rw [finalState_writeOpen]
    exact Machine.Owned.same h (Machine.sameStock_overwritten ..)
  -- A range that is unmapped was open, so one fewer is open now.
  | @closed range mem =>
    have opened : run.ranges.length = (run.ranges.erase range).length + 1 := by
      rw [List.length_erase_of_mem mem]
      exact (Nat.succ_pred_eq_of_pos (List.length_pos_of_mem mem)).symm
    rw [opened] at h
    rw [finalState_closeRange]
    exact Machine.Inventory.unmapped h _

theorem Run.Step.balanced {run' : Run} (step : Run.Step run run') (h : run.workspace.Balanced run.ranges.length) :
    run'.workspace.Balanced run'.ranges.length := by
  cases step with
  | perform request =>
    exact ends_finalState.1 ((ends_perform_performed h.live request).mono fun _ _ hp => h.performed hp)
  | range ranging => exact ranging.balanced h

/-- Every run leaves a workspace balanced. -/
theorem Run.Steps.balanced (new : start.New) (steps : Run.Steps { workspace := start } run) :
    run.workspace.Balanced run.ranges.length :=
  steps.preserve (I := fun run => run.workspace.Balanced run.ranges.length) (fun _ _ => Run.Step.balanced)
    new.balanced

/-- A fill whose staging buffer cannot be made fails so, and leaves buffer and machine without a trace of
it. -/
theorem ends_buildStaging_fill (h : w.Balanced n) (hb : w.buffers.get? name = some b) (bare : b.staging = none)
    (contents : Contents) (discard : Bool) :
    (b.buildStaging contents).Ends w.session fun r s => ∀ f, r = .error f →
      s.machine.Owned (owners w.buffers) n ∧
        perform (.fill name contents discard) w = .error f ⟨s, w.buffers.insert name b⟩ := by
  refine ((StagedBuffer.ends_buildStaging_building b contents w.session).and (ends_self _ _)).mono ?_
  rintro _ s ⟨⟨-, building⟩, ends⟩ f rfl
  refine ⟨Machine.Owned.building h building, eq_error_of_ends ?_⟩
  rw [perform, ends_bind, ends_held, hb]
  dsimp only
  rw [ends_bind, ends_fill, StagedBuffer.ends_fill, StagedBuffer.ends_stage_bare bare]
  refine ends.mono fun r s' h => ?_
  obtain ⟨rfl, rfl⟩ := h
  exact ⟨rfl, rfl⟩

/-- What a run leaves behind: what is in stock, what was given back, and what the next request does. -/
structure Settled (w : Workspace) (ranges : Nat) : Prop where
  /-- There is one buffer and one memory for each buffer and each staging buffer that is held. -/
  balanced : w.Balanced ranges
  /-- No number is given back twice. -/
  once : (returned w.session.machine.trace.toList).Nodup
  /-- When nothing is held, everything that was made was given back. -/
  empty : w.buffers.entries = [] →
    let counters := w.session.machine.counters
    counters.buffersCreated = counters.buffersDestroyed ∧ counters.allocations = counters.frees ∧
      counters.maps = counters.unmaps + ranges ∧ w.session.machine.liveMemoryCount = 0
  /-- An attempt to make a buffer that fails leaves nothing. -/
  unmade : ∀ name spec, (perform (.create name spec)).Ends w fun r w' => ∀ f, r = .error f →
    w'.buffers = w.buffers ∧ w'.session.machine.Owned (owners w.buffers) ranges
  /-- A fill whose staging buffer cannot be made leaves nothing, and its buffer as it was. -/
  unstaged : ∀ name b contents discard, w.buffers.get? name = some b → b.staging = none →
    (b.buildStaging contents).Ends w.session fun r s => ∀ f, r = .error f →
      s.machine.Owned (owners w.buffers) ranges ∧
        perform (.fill name contents discard) w = .error f ⟨s, w.buffers.insert name b⟩
  /-- A buffer that is released, or replaced by another, gives back its staging buffer, its staging
  memory, itself and its memory, in that order. -/
  released : ∀ name b, w.buffers.get? name = some b →
    ((perform (.release name)).Ends w fun r w' => r = .ok (.released true) ∧
      w'.buffers = w.buffers.erase name ∧
        w'.session.machine.trace.toList = w.session.machine.trace.toList ++ b.farewell) ∧
    ∀ spec, (perform (.create name spec)).Ends w fun r w' => ∀ reply, r = .ok reply →
      b.farewell <:+ w'.session.machine.trace.toList

/-- Whatever was asked for and whatever failed, a run leaves nothing behind. -/
theorem settled_of_steps (new : start.New) (steps : Run.Steps { workspace := start } run) :
    run.workspace.Settled run.ranges.length := by
  have balanced := steps.balanced new
  have owned : run.workspace.session.machine.Owned (owners run.workspace.buffers) run.ranges.length := balanced
  constructor
  case balanced => exact balanced
  case once => exact (List.nodup_append.1 owned.distinct).2.1
  case empty =>
    intro none
    have inventory := owned
    rw [owners, none] at inventory
    refine ⟨inventory.buffersCreated, inventory.allocations, inventory.maps, ?_⟩
    -- There are as many live memories as owners, and there are no owners.
    simpa [Machine.liveMemoryCount, Table.size, Table.keys] using inventory.liveMemories.length_eq
  case unmade =>
    intro name spec
    refine (ends_perform_performed balanced.live _).mono fun r w' performed f hr => ?_
    have after := balanced.performed performed
    cases performed with
    | unmade => exact ⟨rfl, after⟩
    | noted annotates => exact annotates.elim
    | absent | made | replaced => cases hr
  case unstaged => exact fun name b contents discard hb bare => ends_buildStaging_fill balanced hb bare contents discard
  case released =>
    intro name b hb
    constructor
    · refine (ends_perform_performed balanced.live _).mono fun r w' performed => ?_
      cases performed with
      | released held =>
        cases hb.symm.trans held
        exact ⟨rfl, rfl, b.trace_without_parts _⟩
      | absent named absent =>
        cases List.mem_singleton.1 named
        cases hb.symm.trans absent
      | noted annotates => exact annotates.elim
    · intro spec
      refine (ends_perform_performed balanced.live _).mono fun r w' performed reply hr => ?_
      cases performed with
      | @replaced _ _ _ s _ held =>
        cases hb.symm.trans held
        exact ⟨_, (b.trace_without_parts s.machine).symm⟩
      | made absent => cases hb.symm.trans absent
      | absent named => cases named
      | noted annotates => exact annotates.elim
      | unmade => cases hr

/-- A fill that finds no fence keeps its staging buffer, which goes with the buffer. -/
theorem settled_unfenced :
    let start := hosted { schedule := .losesFirst .createFence } 1
    let made := Run.performed { workspace := start } (.create "a" (.deviceLocal 4 Usage.transferDestination))
    let filled := made.performed (.fill "a" .increasing true)
    let left := filled.performed (.release "a")
    start.New ∧ (filled.workspace.buffers.get? "a").map (·.staging.isSome) = some true ∧
      left.workspace.buffers.entries = [] ∧ left.workspace.Settled 0 := by
  intro start made filled left
  have new : start.New := new_unfenced Nat.one_pos
  have steps : Run.Steps { workspace := start } left :=
    ((Relation.ReflTransGen.single (.perform _)).tail (.perform _)).tail (.perform _)
  exact ⟨new, by decide +kernel, by decide +kernel, settled_of_steps new steps⟩

end Workspace

end CopyBench
