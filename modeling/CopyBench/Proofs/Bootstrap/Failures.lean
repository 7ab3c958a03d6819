import CopyBench.Bootstrap.Context
import CopyBench.Proofs.Pool.Failures
/-!
# What bringing up a context fails with

Every error on the way to a context is a misconfiguration.
-/

namespace CopyBench

open CopyBench.Action

variable {P : Failure → Prop}

theorem Platform.raises_enumerate (point : Entrypoint) : Raises Failure.Misconfigured (enumerate point) :=
  (Machine.raises_nextFault point).bind fun fault => by
    cases fault with
    | none => exact .pure _
    | some code => exact .fail trivial

theorem Platform.raises_requireLoaded : Raises Failure.Misconfigured requireLoaded :=
  Raises.bind (fun _ => nofun) fun _ => .ite (.pure _) (.fail trivial)

namespace Instance

theorem raises_deliver (mask : MessengerMask) (messages : List DebugMessage) :
    Raises P (deliver mask messages) := by
  induction messages with
  | nil => exact .pure _
  | cons message rest ih => exact .optional (.log _ _) fun _ => ih

theorem raises_createMessenger (platform : Platform) (mask : MessengerMask) :
    Raises P (createMessenger platform mask) := by
  refine (Machine.raises_affect _ _ _).bind fun answer => ?_
  cases answer with
  | ok _ => exact (raises_deliver mask _).bind fun _ => .pure _
  | error code => exact Raises.bind (.log _ _) fun _ => .pure _

theorem raises_checkValidationLayer (platform : Platform) :
    Raises Failure.Misconfigured (checkValidationLayer platform) :=
  (Platform.raises_enumerate _).bind fun _ => .ite (.pure _) (.fail trivial)

/-- Asks for an instance, and makes its messenger if one was chained to the request. -/
def ask (platform : Platform) (wanted : InstanceRequest) : Action Machine (Option Handle) := do
  (Machine.affect .createInstance (.createInstance wanted) id).orFatal Entrypoint.createInstance.symbol
  match wanted.messenger with
  | none => do
    log .trace "Created Vulkan instance"
    pure none
  | some mask => do
    deliver mask platform.messages
    log .trace "Created Vulkan instance"
    createMessenger platform mask

theorem create_eq (platform : Platform) (config : Configuration) : create platform config = (do
    Platform.requireLoaded
    Platform.enumerate .enumerateExtensions
    if platform.supports requiredExtension then do
      if config.wantsDebugUtils && !platform.supports debugExtension then
        log .warn "VK_EXT_debug_utils not available, validation output will be lost"
      if config.validation then checkValidationLayer platform
      ask platform (request platform config)
    else Action.fail (.configuration (.missingExtension requiredExtension))) :=
  rfl

theorem raises_ask (platform : Platform) (wanted : InstanceRequest) :
    Raises Failure.Misconfigured (ask platform wanted) := by
  refine (Raises.orFatal (Machine.raises_affect _ _ _) fun _ => trivial).bind fun _ => ?_
  cases wanted.messenger with
  | none => exact Raises.bind (.log _ _) fun _ => .pure _
  | some mask =>
    exact (raises_deliver mask _).bind fun _ => Raises.bind (.log _ _) fun _ => raises_createMessenger platform mask

theorem raises_create (platform : Platform) (config : Configuration) :
    Raises Failure.Misconfigured (create platform config) := by
  rw [create_eq]
  refine Platform.raises_requireLoaded.bind fun _ => (Platform.raises_enumerate _).bind fun _ => ?_
  refine .ite ?_ (.fail trivial)
  exact .optional (.log _ _) fun _ => .optional (raises_checkValidationLayer platform) fun _ => raises_ask _ _

end Instance

theorem QueueFamily.raises_choose (families : List QueueFamily) (engine : Engine) :
    Raises Failure.Misconfigured (choose families engine) := by
  unfold choose
  dsimp only
  refine Raises.optional (.log _ _) fun _ => ?_
  cases select? families engine with
  | none => exact .fail trivial
  | some selected => exact .pure _

theorem CommandPool.raises_release (pool : CommandPool) : Raises P pool.release := by
  have gone := Device.raises_destroyCommandPool (P := P) pool.device pool.handle (pool.slots.map (·.commandBuffer))
  refine Raises.bind (.log _ _) fun _ => .ite ?_ gone
  refine (Machine.raises_affect _ _ _).bind fun answer => ?_
  cases answer with
  | ok _ => exact gone
  | error code => exact Raises.bind (.log _ _) fun _ => gone

namespace Context

theorem raises_destroyDevice : Raises P destroyDevice := by
  have gone := Machine.raises_record (P := P) .destroyDevice .done
  refine Raises.bind (.log _ _) fun _ => (Machine.raises_affect _ _ _).bind fun answer => ?_
  cases answer with
  | ok _ => exact gone
  | error code => exact Raises.bind (.log _ _) fun _ => gone

theorem raises_release (context : Context) : Raises P context.release := by
  have gone : Raises P (do
      log .trace "  Destroying Instance"
      Instance.destroy
      log .trace "Vulkan Context Destroyed" : Action Machine Unit) :=
    Raises.bind (.log _ _) fun _ => (Machine.raises_record _ _).bind fun _ => .log _ _
  have last (messenger : Handle) : Raises P (do
      log .trace "  Destroying debug messenger"
      Machine.record (.destroyMessenger messenger) .done
      log .trace "  Destroying Instance"
      Instance.destroy
      log .trace "Vulkan Context Destroyed" : Action Machine Unit) :=
    Raises.bind (.log _ _) fun _ => (Machine.raises_record _ _).bind fun _ => gone
  have down {rest : Action Machine Unit} (pool : CommandPool) (h : Raises P rest) :
      Raises P (pool.release >>= fun _ => destroyDevice >>= fun _ => rest) :=
    (CommandPool.raises_release pool).bind fun _ => raises_destroyDevice.bind fun _ => h
  unfold release
  obtain ⟨_ | messenger, _ | pool⟩ := context <;> dsimp only
  · exact Raises.bind (.log _ _) fun _ => gone
  · exact Raises.bind (.log _ _) fun _ => down pool gone
  · exact Raises.bind (.log _ _) fun _ => last messenger
  · exact Raises.bind (.log _ _) fun _ => down pool (last messenger)

theorem raises_pickDevice (platform : Platform) (index : UInt32) :
    Raises Failure.Misconfigured (pickDevice platform index) := by
  refine (Platform.raises_enumerate _).bind fun _ => ?_
  cases platform.devices[index.toNat]? with
  | none => exact .fail trivial
  | some physical => exact Raises.bind (.log _ _) fun _ => .pure _

theorem raises_createPool (config : Configuration) (physical : PhysicalDevice) (hasMessenger : Bool) :
    Raises Failure.Misconfigured (createPool config physical hasMessenger) := by
  refine (QueueFamily.raises_choose _ _).bind fun family => .optional (.log _ _) fun _ => ?_
  refine Raises.bind ?_ fun _ => .onFailure (CommandPool.raises_create _ _ _ _ _) raises_destroyDevice
  exact (Raises.orFatal (Machine.raises_affect _ _ _) fun _ => trivial).bind fun _ =>
    (Machine.raises_record _ _).bind fun _ => .log _ _

/-- Every error that keeps a context from being brought up is a misconfiguration. -/
theorem raises_create (platform : Platform) (config : Configuration) :
    Raises Failure.Misconfigured (create platform config) := by
  refine (Instance.raises_create platform config).bind fun messenger => .onFailure ?_ (raises_release _)
  refine (raises_pickDevice platform _).bind fun physical => .ite ?_ (.pure _)
  exact (raises_createPool config physical _).bind fun _ => .pure _

end Context

end CopyBench
