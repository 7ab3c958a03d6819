import CopyBench.Pool.Basic
import CopyBench.Proofs.Machine.Answers
/-!
# Making and releasing pools

A pool that was made has its command buffers in idle slots, under numbers that nothing had before.
Releasing a pool waits for its queue first when some slot may still be executing.
-/

namespace CopyBench

open CopyBench.Action

namespace Machine

/-- The machine after a device made its wish for a pool known. -/
def announced (m : Machine) (device : Device) : Machine :=
  match device.route with
  | .direct => m
  | .logical _ => m.traced (.poolCreationFlags Device.resettable) .done

/-- The machine after a device made a pool. -/
def pooled (m : Machine) (device : Device) (family : UInt32) : Machine :=
  (m.announced device).answer .createCommandPool (.createCommandPool family)
    (.handle (m.lastHandle + 1)) fun m => { m with lastHandle := m.lastHandle + 1 }

/-- The machine after command buffers were made. -/
def allotted (m : Machine) (pool : Handle) (level : Int) (n : Nat) : Machine :=
  m.answer .allocateCommandBuffers (.allocateCommandBuffers pool level n)
    (.handles (List.range' (m.lastHandle + 1) n)) fun m => { m with lastHandle := m.lastHandle + n }

theorem announced_frame (m : Machine) (device : Device) :
    m.announced device = { m with trace := (m.announced device).trace } := by
  unfold announced
  cases device.route <;> rfl

@[simp] theorem lastHandle_pooled (m : Machine) (device : Device) (family : UInt32) :
    (m.pooled device family).lastHandle = m.lastHandle + 1 := by
  rw [pooled, announced_frame]
  rfl

theorem ends_device_createCommandPool (device : Device) (family : UInt32) (m : Machine)
    (Q : Except Failure (Except ResultCode Handle) → Machine → Prop) :
    Ends (device.createCommandPool family) m Q ↔
      match m.fault .createCommandPool with
      | some code => Q (.ok (.error code))
          ((m.announced device).refuse .createCommandPool (.createCommandPool family) code)
      | none => Q (.ok (.ok (m.lastHandle + 1))) (m.pooled device family) := by
  rw [Device.createCommandPool, announced.eq_def, pooled, announced.eq_def]
  cases device.route with
  | direct => exact ends_make ..
  | logical debugNames => exact ends_make _ _ _ (m.traced _ _) _

theorem ends_allocateCommandBuffers (pool : Handle) (level : Int) (n : Nat) (m : Machine)
    (Q : Except Failure (Except ResultCode (List Handle)) → Machine → Prop) :
    Ends (allocateCommandBuffers pool level n) m Q ↔
      match m.fault .allocateCommandBuffers with
      | some code => Q (.ok (.error code))
          (m.refuse .allocateCommandBuffers (.allocateCommandBuffers pool level n) code)
      | none => Q (.ok (.ok (List.range' (m.lastHandle + 1) n))) (m.allotted pool level n) := by
  rw [allocateCommandBuffers, ends_invoke]
  cases m.fault .allocateCommandBuffers <;> exact Iff.rfl

end Machine

namespace CommandPool

/-- The pool that is made when the machine's next handle is `handle`. -/
def fresh (device : Device) (queue : Handle) (depth : Nat) (family : UInt32) (handle : Handle) :
    CommandPool :=
  { device, queue, family, handle
    slots := (List.range' (handle + 1) depth).map fun buffer => { commandBuffer := buffer } }

/-- The machine after a pool was made. -/
def created (m : Machine) (device : Device) (depth : Nat) (family : UInt32) (level : Int) : Machine :=
  Console.tell (.logged .trace ("Created command pool with " ++ toString depth ++ " " ++
      Flags.commandBufferLevel level ++ " command buffers on family " ++ toString family.toNat))
    ((m.pooled device family).allotted (m.lastHandle + 1) level depth)

/-- A pool is made unless it is senseless or one of two calls fails. -/
theorem ends_create (device : Device) (queue : Handle) (depth : Nat) (family : UInt32) (level : Int)
    (m : Machine) (Q : Except Failure CommandPool → Machine → Prop) :
    Ends (create device queue depth family level) m Q ↔
      if device.isNull then Q (.error (.error (.configuration .nullDevice))) m
      else if depth = 0 then Q (.error (.error (.configuration .emptyPool))) m
      else match m.fault .createCommandPool with
      | some code =>
        Q (.error (.error (.configuration
            (.callFailed Entrypoint.createCommandPool.symbol code))))
          ((m.announced device).refuse .createCommandPool (.createCommandPool family) code)
      | none => match (m.pooled device family).fault .allocateCommandBuffers with
        | some code =>
          Q (.error (.error (.configuration
              (.callFailed Entrypoint.allocateCommandBuffers.symbol code))))
            ((device.destroyCommandPool (m.lastHandle + 1) []).finalState
              ((m.pooled device family).refuse .allocateCommandBuffers
                (.allocateCommandBuffers (m.lastHandle + 1) level depth) code))
        | none => Q (.ok (fresh device queue depth family (m.lastHandle + 1)))
            (created m device depth family level) := by
  rw [create, ends_ite, ends_ite]
  by_cases hnull : device.isNull = true
  · rw [if_pos hnull, if_pos hnull]
    exact Iff.rfl
  by_cases hdepth : depth = 0
  · rw [if_neg hnull, if_neg hnull, if_pos hdepth, if_pos hdepth]
    exact Iff.rfl
  rw [if_neg hnull, if_neg hnull, if_neg hdepth, if_neg hdepth, ends_bind, ends_orFatal, Machine.ends_device_createCommandPool]
  cases m.fault .createCommandPool with
  | some code => exact Iff.rfl
  | none =>
    dsimp only
    rw [ends_bind, ends_onFailure, ends_orFatal, Machine.ends_allocateCommandBuffers]
    cases (m.pooled device family).fault .allocateCommandBuffers with
    | none =>
      dsimp only
      rw [Machine.lastHandle_pooled]
      exact Iff.rfl
    | some code =>
      unfold Device.destroyCommandPool
      cases device.route <;> exact Iff.rfl

/-- A pool that makes sense is made when neither call fails. -/
theorem create_ok {device : Device} (present : device.isNull = false) (queue : Handle) {depth : Nat}
    (hdepth : 0 < depth) (family : UInt32) (level : Int) {m : Machine}
    (pooled : m.fault .createCommandPool = none)
    (allotted : (m.pooled device family).fault .allocateCommandBuffers = none) :
    create device queue depth family level m =
      .ok (fresh device queue depth family (m.lastHandle + 1)) (created m device depth family level) := by
  apply eq_ok_of_ends
  rw [ends_create, if_neg (by simp [present]), if_neg (Nat.ne_of_gt hdepth), pooled]
  dsimp only
  rw [allotted]
  exact ⟨rfl, rfl⟩

/-- A pool that was made: its slots are idle, and its handles are the next ones of the machine. -/
theorem create_eq {device : Device} {queue : Handle} {depth : Nat} {family : UInt32} {level : Int}
    {m m' : Machine} {pool : CommandPool}
    (h : create device queue depth family level m = .ok pool m') :
    device.isNull = false ∧ depth ≠ 0 ∧ pool = fresh device queue depth family (m.lastHandle + 1) ∧
      m' = created m device depth family level := by
  have hends := (ends_of_ok (Q := fun r m' => ∀ pool, r = .ok pool → device.isNull = false ∧ depth ≠ 0 ∧
    pool = fresh device queue depth family (m.lastHandle + 1) ∧
      m' = created m device depth family level) h).1
  refine hends ?_ pool rfl
  rw [ends_create]
  repeat' split
  all_goals first | (intro pool h; contradiction) | skip
  intro pool h
  cases h
  exact ⟨Bool.eq_false_iff.2 ‹_›, ‹_›, rfl, rfl⟩

/-- The slots of a pool that was just made are idle and have different command buffers. -/
theorem slots_of_create {device : Device} {queue : Handle} {depth : Nat} {family : UInt32} {level : Int}
    {m m' : Machine} {pool : CommandPool}
    (h : create device queue depth family level m = .ok pool m') :
    (∀ slot ∈ pool.slots, slot.state = .idle) ∧ (pool.slots.map (·.commandBuffer)).Nodup := by
  obtain ⟨-, -, rfl, -⟩ := create_eq h
  refine ⟨fun slot hmem => ?_, ?_⟩
  · obtain ⟨buffer, -, rfl⟩ := List.mem_map.1 hmem
    rfl
  · simpa [fresh, Function.comp_def] using List.nodup_range' 1

/-- The command buffers of a pool that was just made are new, and hold what their numbers held. -/
theorem work_of_create {device : Device} {queue : Handle} {depth : Nat} {family : UInt32} {level : Int}
    {m m' : Machine} {pool : CommandPool}
    (h : create device queue depth family level m = .ok pool m') {slot : Slot} (hmem : slot ∈ pool.slots) :
    m.lastHandle < slot.commandBuffer ∧ m'.work slot.commandBuffer = m.work slot.commandBuffer := by
  obtain ⟨-, -, rfl, rfl⟩ := create_eq h
  refine ⟨?_, ?_⟩
  · obtain ⟨buffer, hbuffer, rfl⟩ := List.mem_map.1 hmem
    exact Nat.le_of_succ_le (List.mem_range'_1.1 hbuffer).1
  · change ((m.announced device).recorded.get? _).getD [] = _
    rw [Machine.announced_frame]
    rfl

/-! ## Release -/

/-- The calls by which a device takes a pool back. -/
def farewell (pool : CommandPool) : List Event :=
  let buffers := pool.slots.map (·.commandBuffer)
  match pool.device.route with
  | .direct => [⟨.destroyCommandPool pool.handle buffers, .done⟩]
  | .logical _ =>
    (if buffers ≠ [] then [⟨.freeCommandBuffers pool.handle buffers, .done⟩] else []) ++
      [⟨.destroyCommandPool pool.handle [], .done⟩]

theorem ends_destroyCommandPool (pool : CommandPool) (m : Machine) :
    (pool.device.destroyCommandPool pool.handle (pool.slots.map (·.commandBuffer))).Ends m fun _ m' =>
      m'.trace.toList = m.trace.toList ++ pool.farewell := by
  unfold Device.destroyCommandPool farewell
  cases pool.device.route with
  | direct => simp [Machine.destroyCommandPool]
  | logical debugNames =>
    by_cases h : pool.slots.map (·.commandBuffer) = []
    · simp [Machine.destroyCommandPool, h]
    · simp [Machine.destroyCommandPool, h]

/-- A pool whose slots may still be executing waits for its queue before it goes, and only then. -/
theorem ends_release (pool : CommandPool) (m : Machine) :
    pool.release.Ends m fun _ m' =>
      m'.trace.toList = m.trace.toList ++
        (if pool.hasPending then
          [⟨.queueWaitIdle pool.queue, (m.fault .queueWaitIdle).elim .done .failed⟩] else []) ++
        pool.farewell := by
  rw [release, ends_bind, ends_log]
  dsimp only
  split
  case isFalse pending =>
    refine (ends_destroyCommandPool pool _).mono fun _ m' h => ?_
    rw [h, List.append_nil]
    rfl
  case isTrue pending =>
    rw [ends_bind, Machine.ends_queueWaitIdle]
    change match m.fault .queueWaitIdle with
      | some code => _
      | none => _
    cases m.fault .queueWaitIdle with
    | none =>
      refine (ends_destroyCommandPool pool _).mono fun _ m' h => ?_
      rw [h, Machine.trace_drained, Array.toList_push]
      rfl
    | some code =>
      dsimp only
      rw [ends_bind, ends_log]
      refine (ends_destroyCommandPool pool _).mono fun _ m' h => ?_
      rw [h]
      change (Machine.refuse _ _ _ _).trace.toList ++ _ = _
      rw [Machine.trace_refuse, Array.toList_push]
      rfl

end CommandPool

end CopyBench
