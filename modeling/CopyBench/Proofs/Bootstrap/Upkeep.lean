import CopyBench.Bootstrap.Context
import CopyBench.Proofs.Machine.Upkeep
import CopyBench.Proofs.Pool.Creation
/-!
# Contexts whatever fails

Bringing a context up and taking it down is upkeep of its machine. The pool of a context that was
brought up is fresh: all its slots are idle, and its command buffers are new.
-/

namespace CopyBench

open CopyBench.Action CopyBench.Machine

/-! ## Pools -/

namespace Machine

theorem tends_createCommandPool (family : UInt32) : Tends (createCommandPool family) := fun m => by
  have made : Upkeep m [] [⟨.createCommandPool family, .handle (m.lastHandle + 1)⟩]
      (m.answer .createCommandPool (.createCommandPool family) (.handle (m.lastHandle + 1)) fun m =>
        { m with lastHandle := m.lastHandle + 1 }) :=
    upkeep_event (plain_of_inert trivial) rfl rfl (Nat.le_succ _) rfl
  rw [createCommandPool, ends_make]
  split
  · exact ⟨⟨_, upkeep_refuse m _ (.createCommandPool family) _⟩, nofun⟩
  · exact ⟨⟨_, made⟩, nofun⟩

theorem tends_allocateCommandBuffers (pool : Handle) (level : Int) (n : Nat) :
    Tends (allocateCommandBuffers pool level n) := fun m => by
  have allotted : Upkeep m []
      [⟨.allocateCommandBuffers pool level n, .handles (List.range' (m.lastHandle + 1) n)⟩]
      (m.allotted pool level n) :=
    upkeep_event (plain_of_inert trivial) rfl rfl (Nat.le_add_right _ n) rfl
  rw [ends_allocateCommandBuffers]
  split
  · exact ⟨⟨_, upkeep_refuse m _ (.allocateCommandBuffers pool level n) _⟩, nofun⟩
  · exact ⟨⟨_, allotted⟩, nofun⟩

theorem tends_destroyCommandPool (pool : Handle) (buffers : List Handle) :
    Tends (Machine.destroyCommandPool pool buffers) := fun m => by
  have destroyed : Upkeep m [] [⟨.destroyCommandPool pool buffers, .done⟩]
      ({ m with counters := { m.counters with poolsDestroyed := m.counters.poolsDestroyed + 1 } }.traced
        (.destroyCommandPool pool buffers) .done) :=
    upkeep_event (plain_of_inert trivial) rfl rfl (Nat.le_refl _) rfl
  exact ⟨⟨_, destroyed⟩, nofun⟩

theorem tends_queueWaitIdle (queue : Handle) : Tends (queueWaitIdle queue) :=
  tends_affect .queueWaitIdle trivial fun _ => ⟨rfl, rfl, Nat.le_refl _, rfl⟩

end Machine

namespace CommandPool

theorem tends_device_createCommandPool (device : Device) (family : UInt32) :
    Tends (device.createCommandPool family) := by
  unfold Device.createCommandPool
  cases device.route with
  | direct => exact tends_createCommandPool family
  | logical debugNames => exact Tends.bind (tends_record trivial) fun _ => tends_createCommandPool family

theorem tends_device_destroyCommandPool (device : Device) (pool : Handle) (buffers : List Handle) :
    Tends (device.destroyCommandPool pool buffers) := by
  unfold Device.destroyCommandPool
  cases device.route with
  | direct => exact tends_destroyCommandPool pool buffers
  | logical debugNames =>
    exact .ite (Tends.bind (tends_record trivial) fun _ => tends_destroyCommandPool pool [])
      (tends_destroyCommandPool pool [])

theorem tends_create (device : Device) (queue : Handle) (depth : Nat) (family : UInt32) (level : Int) :
    Tends (create device queue depth family level) := by
  refine .ite (.fail (discreet_configuration _)) (.ite (.fail (discreet_configuration _)) ?_)
  refine ((tends_device_createCommandPool device family).orFatal _).bind fun handle => ?_
  refine Tends.bind (.onFailure ((tends_allocateCommandBuffers handle level depth).orFatal _)
    (tends_device_destroyCommandPool device handle [])) fun buffers => ?_
  exact (Tends.log _ _).bind fun _ => .pure _

theorem tends_release (pool : CommandPool) : Tends pool.release := by
  have gone := tends_device_destroyCommandPool pool.device pool.handle (pool.slots.map (·.commandBuffer))
  refine (Tends.log _ _).bind fun _ => .ite ?_ gone
  refine (tends_queueWaitIdle pool.queue).bind fun answer => ?_
  cases answer with
  | ok _ => exact gone
  | error code => exact (Tends.log _ _).bind fun _ => gone

/-- A pool that was just made on a logical device, after the machine `m`. -/
structure Fresh (m : Machine) (pool : CommandPool) : Prop where
  new : ∀ b ∈ pool.slots.map (·.commandBuffer), m.lastHandle < b
  idle : ∀ slot ∈ pool.slots, slot.state = .idle
  cursor : pool.cursor < pool.slots.length
  route : ∃ debugNames, pool.device.route = .logical debugNames

theorem Fresh.earlier {m m' : Machine} {pool : CommandPool} (h : Fresh m' pool)
    (hle : m.lastHandle ≤ m'.lastHandle) : Fresh m pool :=
  ⟨fun b hb => Nat.lt_of_le_of_lt hle (h.new b hb), h.idle, h.cursor, h.route⟩

theorem fresh_of_create {device : Device} {queue : Handle} {depth : Nat} {family : UInt32} {level : Int}
    {m m' : Machine} {pool : CommandPool} (route : ∃ debugNames, device.route = .logical debugNames)
    (h : create device queue depth family level m = .ok pool m') : Fresh m pool := by
  refine ⟨fun b hb => ?_, (slots_of_create h).1, ?_, ?_⟩
  · obtain ⟨slot, hmem, rfl⟩ := List.mem_map.1 hb
    exact (work_of_create h hmem).1
  · obtain ⟨-, hdepth, rfl, -⟩ := create_eq h
    simpa [fresh] using Nat.pos_of_ne_zero hdepth
  · obtain ⟨-, -, rfl, -⟩ := create_eq h
    exact route

end CommandPool

/-! ## Instances -/

theorem tends_get : Tends (get : Action Machine Machine) := fun m => ⟨⟨[], .refl m⟩, nofun⟩

theorem Platform.tends_enumerate (point : Entrypoint) : Tends (enumerate point) :=
  Tends.bind (tends_nextFault point) fun fault => by
    cases fault with
    | none => exact .pure _
    | some code => exact .fail (discreet_configuration _)

theorem Platform.tends_requireLoaded : Tends requireLoaded :=
  tends_get.bind fun _ => .ite (.pure _) (.fail (discreet_configuration _))

/-- A call that only asks for something to be brought up or taken down. -/
theorem tends_ask (point : Entrypoint) {call : Call} (inert : call.Inert)
    (spares : ∀ h, call ≠ .destroyBuffer h := by simp) : Tends (affect point call id) :=
  tends_affect point inert (fun _ => ⟨rfl, rfl, Nat.le_refl _, rfl⟩) spares

namespace Instance

theorem tends_deliver (mask : MessengerMask) (messages : List DebugMessage) : Tends (deliver mask messages) := by
  induction messages with
  | nil => exact .pure _
  | cons message rest ih => exact .ite ((Tends.log _ _).bind fun _ => ih) ih

theorem tends_createMessenger (platform : Platform) (mask : MessengerMask) :
    Tends (createMessenger platform mask) := by
  refine Tends.bind (tends_ask .createMessenger trivial) fun answer => ?_
  cases answer with
  | ok _ => exact (tends_deliver mask platform.messages).bind fun _ => .pure _
  | error code => exact (Tends.log _ _).bind fun _ => .pure _

theorem tends_checkValidationLayer (platform : Platform) : Tends (checkValidationLayer platform) :=
  Tends.bind (Platform.tends_enumerate _) fun _ => .ite (.pure _) (.fail (discreet_configuration _))

theorem tends_create (platform : Platform) (config : Configuration) : Tends (create platform config) := by
  unfold create
  dsimp only
  refine Tends.bind Platform.tends_requireLoaded fun _ => Tends.bind (Platform.tends_enumerate _) fun _ => ?_
  refine .ite ?_ (.fail (discreet_configuration _))
  refine .optional (.log _ _) fun _ => .optional (tends_checkValidationLayer platform) fun _ => ?_
  refine Tends.bind (Tends.orFatal _ (tends_ask .createInstance trivial)) fun _ => ?_
  cases (request platform config).messenger with
  | none => exact (Tends.log _ _).bind fun _ => .pure _
  | some mask =>
    exact (tends_deliver mask platform.messages).bind fun _ => (Tends.log _ _).bind fun _ =>
      tends_createMessenger platform mask

theorem tends_destroy : Tends destroy := tends_record trivial

end Instance

/-! ## Contexts -/

theorem QueueFamily.tends_choose (families : List QueueFamily) (engine : Engine) :
    Tends (choose families engine) := by
  unfold choose
  dsimp only
  refine .optional (.log _ _) fun _ => ?_
  cases select? families engine with
  | none => exact .fail (discreet_configuration _)
  | some selected => exact .pure _

namespace Context

theorem tends_destroyDevice : Tends destroyDevice := by
  have gone : Tends (record .destroyDevice .done) := tends_record trivial
  refine (Tends.log _ _).bind fun _ => Tends.bind (tends_ask .deviceWaitIdle trivial) fun answer => ?_
  cases answer with
  | ok _ => exact gone
  | error code => exact (Tends.log _ _).bind fun _ => gone

theorem tends_release (context : Context) : Tends context.release := by
  have gone : Tends (do
      log .trace "  Destroying Instance"
      Instance.destroy
      log .trace "Vulkan Context Destroyed") :=
    (Tends.log _ _).bind fun _ => Tends.bind Instance.tends_destroy fun _ => .log _ _
  unfold release
  obtain ⟨_ | messenger, _ | pool⟩ := context <;> dsimp only
  · exact (Tends.log _ _).bind fun _ => gone
  · exact (Tends.log _ _).bind fun _ => pool.tends_release.bind fun _ => tends_destroyDevice.bind fun _ => gone
  · exact (Tends.log _ _).bind fun _ => (Tends.log _ _).bind fun _ =>
      Tends.bind (tends_record trivial) fun _ => gone
  · exact (Tends.log _ _).bind fun _ => pool.tends_release.bind fun _ => tends_destroyDevice.bind fun _ =>
      (Tends.log _ _).bind fun _ => Tends.bind (tends_record trivial) fun _ => gone

theorem tends_pickDevice (platform : Platform) (index : UInt32) : Tends (pickDevice platform index) := by
  refine Tends.bind (Platform.tends_enumerate _) fun _ => ?_
  cases platform.devices[index.toNat]? with
  | none => exact .fail (discreet_configuration _)
  | some physical => exact (Tends.log _ _).bind fun _ => .pure _

theorem tends_createDevice (index : UInt32) (family : Nat) : Tends (createDevice index family) :=
  Tends.bind (Tends.orFatal _ (tends_ask .createDevice trivial)) fun _ =>
    Tends.bind (tends_record trivial) fun _ => .log _ _

/-! ## The pool of a context -/

/-- The action does upkeep only, and a pool in its value is fresh. -/
def Readies {α : Type} (pool : α → Option CommandPool) (act : Action Machine α) : Prop :=
  ∀ m, act.Ends m fun r m' =>
    (∃ more, Upkeep m [] more m') ∧ ∀ a, r = .ok a → ∀ p, pool a = some p → p.Fresh m

section Readies

variable {α β : Type} {pool : β → Option CommandPool}

theorem Readies.after {act : Action Machine α} {f : α → Action Machine β} (h : Tends act)
    (h' : ∀ a, Readies pool (f a)) : Readies pool (act >>= f) := fun m => by
  rw [ends_bind]
  refine (h m).mono fun r m₁ hm₁ => ?_
  obtain ⟨⟨more, upkeep⟩, -⟩ := hm₁
  cases r with
  | error f => exact ⟨⟨more, upkeep⟩, nofun⟩
  | ok a =>
    refine (h' a m₁).mono fun r m₂ hm₂ => ?_
    obtain ⟨⟨more', upkeep'⟩, fresh⟩ := hm₂
    exact ⟨⟨_, upkeep.trans upkeep'⟩, fun b hb p hp => (fresh b hb p hp).earlier upkeep.lastHandle⟩

theorem Readies.onFailure {act : Action Machine β} {cleanup : Action Machine Unit} (h : Readies pool act)
    (h' : Tends cleanup) : Readies pool (Action.onFailure act cleanup) := fun m => by
  rw [ends_onFailure]
  refine (h m).mono fun r m₁ hm₁ => ?_
  obtain ⟨⟨more, upkeep⟩, fresh⟩ := hm₁
  cases r with
  | ok b => exact ⟨⟨more, upkeep⟩, fresh⟩
  | error f =>
    refine (h' m₁).mono fun c m₂ hm₂ => ?_
    obtain ⟨⟨more', upkeep'⟩, -⟩ := hm₂
    cases c <;> exact ⟨⟨_, upkeep.trans upkeep'⟩, nofun⟩

end Readies

theorem readies_createPool (config : Configuration) (physical : PhysicalDevice) (hasMessenger : Bool) :
    Readies some (createPool config physical hasMessenger) := by
  have creation (family : QueueFamily.Selected) : Readies some (do
      createDevice config.deviceIndex family.index
      (CommandPool.create
        { memoryTypes := physical.memoryTypes, route := .logical (config.wantsDebugUtils && hasMessenger) }
        Platform.queue CommandPool.defaultDepth family.index.toUInt32 CommandPool.primaryLevel).onFailure
          destroyDevice) := by
    refine .after (tends_createDevice _ _) fun _ => .onFailure (fun m => ?_) tends_destroyDevice
    refine ((CommandPool.tends_create _ _ _ _ _ m).and (ends_eq_ok _ m)).mono fun r m' h => ?_
    obtain ⟨⟨upkeep, -⟩, made⟩ := h
    refine ⟨upkeep, ?_⟩
    rintro _ rfl pool ⟨⟩
    exact CommandPool.fresh_of_create ⟨_, rfl⟩ (made _ rfl)
  unfold createPool
  dsimp only
  refine .after (QueueFamily.tends_choose _ _) fun family => ?_
  split
  · exact .after (.log _ _) fun _ => creation family
  · exact creation family

/-- Bringing up a context. -/
theorem readies_create (platform : Platform) (config : Configuration) :
    Readies Context.pool (create platform config) := by
  unfold create
  dsimp only
  refine .after (Instance.tends_create platform config) fun messenger => .onFailure ?_ (tends_release _)
  refine .after (tends_pickDevice platform _) fun physical => ?_
  split
  · intro m
    rw [ends_bind]
    refine (readies_createPool config physical messenger.isSome m).mono fun r m' h => ?_
    obtain ⟨upkeep, fresh⟩ := h
    cases r with
    | error f => exact ⟨upkeep, nofun⟩
    | ok pool =>
      refine ⟨upkeep, ?_⟩
      rintro _ ⟨⟩ p ⟨⟩
      exact fresh pool rfl pool rfl
  · intro m
    refine ⟨⟨[], .refl m⟩, ?_⟩
    rintro _ ⟨⟩ p ⟨⟩

end Context

end CopyBench
