import CopyBench.Proofs.Bootstrap.Failures
import CopyBench.Proofs.Buffer.Steps
import CopyBench.Proofs.Pool.Creation
import CopyBench.Proofs.Trace.Fixtures
import CopyBench.Report.Basic
/-!
# What contexts raise and raze

An action that brings something up either succeeds, and what it gives stands, or it fails and has razed
again whatever it raised. Two such actions nest, when the first one's fixtures are razed where the second
one fails. Taking a context down razes what it stands on, whatever fails on the way.
-/

namespace CopyBench

open CopyBench.Action
open Fixture (inOrder raising razing cycle)

variable {α β : Type}

/-! ## Machines -/

namespace Machine

/-- The trace of the machine goes on with events that alter the fixtures so. -/
def Alters (m : Machine) (changes : List Alteration) (m' : Machine) : Prop :=
  ∃ more, m'.trace.toList = m.trace.toList ++ more ∧ alterations more = changes

variable {m₀ m m₁ m' : Machine} {changes changes' : List Alteration}

theorem alters_silent (trace : m'.trace = m.trace) : m.Alters [] m' :=
  ⟨[], by rw [trace, List.append_nil], rfl⟩

theorem Alters.refl (m : Machine) : m.Alters [] m := alters_silent rfl

theorem Alters.trans (h : m.Alters changes m₁) (h' : m₁.Alters changes' m') : m.Alters (changes ++ changes') m' := by
  obtain ⟨more, trace, rfl⟩ := h
  obtain ⟨more', trace', rfl⟩ := h'
  exact ⟨more ++ more', by rw [trace', trace, List.append_assoc], alterations_append more more'⟩

/-- What alters nothing can follow. -/
theorem Alters.still (h : m.Alters changes m₁) (h' : m₁.Alters [] m') : m.Alters changes m' :=
  List.append_nil changes ▸ h.trans h'

theorem alters_event {event : Event} (trace : m'.trace = m.trace.push event)
    (altered : event.alteration?.toList = changes := by rfl) : m.Alters changes m' := by
  refine ⟨[event], by simp [trace], ?_⟩
  rw [← altered, alterations, List.filterMap_cons]
  cases event.alteration? <;> rfl

theorem alters_told (m : Machine) (note : Note) : m.Alters [] (Console.tell note m) := alters_silent rfl

theorem alters_refuse (m : Machine) (point : Entrypoint) (call : Call) (code : ResultCode) :
    m.Alters [] (m.refuse point call code) := by
  have refused : (m.refuse point call code).trace = m.trace.push ⟨call, .failed code⟩ := rfl
  refine alters_event refused ?_
  rw [alteration?_failed]
  rfl

theorem Step.alters (step : Step m m') : m.Alters [] m' := by
  cases step with
  | told note => exact alters_told m note
  | refused point call code => exact alters_refuse m point call code
  | lost point call code => exact (alters_silent rfl).trans (alters_refuse m.lost point call code)
  | handed queue run =>
    -- The copies that are executed leave no event; the submission alone is traced.
    have executed : m.Alters [] _ := alters_silent (trace_executed run)
    refine executed.trans ?_
    rename_i cause
    cases cause <;> exact alters_event rfl
  | named | began | ended | drained | fenced | waited | unfenced => exact alters_event rfl

theorem BufferStep.alters (step : BufferStep m m') : m.Alters [] m' := by
  cases step with
  | told note => exact alters_told m note
  | refused point code on => exact alters_refuse m point _ code
  | unmappable memory offset size =>
    exact (alters_silent rfl).trans (alters_refuse m.mapping .mapMemory (.mapMemory memory offset size) _)
  | overwritten memory offset patch =>
    refine alters_silent ?_
    rw [Machine.overwritten.eq_def]
    cases m.memories.get? memory <;> rfl
  | named | buffered | allocated | bound | mapped | unmapped | destroyed | freed => exact alters_event rfl

/-- Nothing that is done with buffers and command buffers alters the fixtures. -/
theorem DeviceSteps.alters (steps : DeviceSteps m m') : m.Alters [] m' := by
  induction steps with
  | refl => exact .refl m
  | tail _ last ih =>
    cases last with
    | aside step => exact ih.trans step.alters
    | buffer step => exact ih.trans step.alters
    | queued b copy => exact ih.trans (alters_event rfl)

/-! ## Actions that cannot fail -/

/-- The action succeeds, and alters the fixtures so. -/
def Completes (changes : List Alteration) (act : Action Machine α) : Prop :=
  ∀ m, act.Ends m fun r m' => (∃ a, r = .ok a) ∧ m.Alters changes m'

namespace Completes

theorem pure (a : α) : Completes [] (pure a) := fun m => ⟨⟨a, rfl⟩, .refl m⟩

theorem log (level : Level) (message : String) : Completes [] (log level message) := fun m =>
  ⟨⟨(), rfl⟩, alters_told m _⟩

theorem bind {act : Action Machine α} {f : α → Action Machine β} (h : Completes changes act)
    (h' : ∀ a, Completes changes' (f a)) : Completes (changes ++ changes') (act >>= f) := fun m => by
  rw [ends_bind]
  refine (h m).mono fun r m₁ h => ?_
  obtain ⟨⟨a, rfl⟩, alters⟩ := h
  exact (h' a m₁).mono fun _ _ h => ⟨h.1, alters.trans h.2⟩

theorem ite {p : Prop} [Decidable p] {x y : Action Machine α} (hx : Completes changes x) (hy : Completes changes y) :
    Completes changes (if p then x else y) := by
  split
  · exact hx
  · exact hy

theorem ends {act : Action Machine α} (h : Completes changes act) (m : Machine) :
    act.Ends m fun _ m' => m.Alters changes m' :=
  (h m).mono fun _ _ h => h.2

end Completes

theorem completes_record {call : Call} {reply : Reply}
    (altered : (Event.alteration? ⟨call, reply⟩).toList = changes := by rfl) :
    Completes changes (record call reply) := fun _ => ⟨⟨(), rfl⟩, alters_event rfl altered⟩

/-- A call that is always answered, and does nothing to the fixtures. -/
theorem completes_affect (point : Entrypoint) {call : Call} {change : Machine → Machine}
    (same : ∀ m, (change m).trace = m.trace) (inert : Event.alteration? ⟨call, .done⟩ = none := by rfl) :
    Completes [] (affect point call change) := fun m => by
  rw [ends_affect]
  cases m.fault point with
  | some code => exact ⟨⟨_, rfl⟩, alters_refuse m point call code⟩
  | none =>
    have trace : (m.answer point call .done change).trace = m.trace.push ⟨call, .done⟩ :=
      congrArg (Array.push · _) (same (m.tallied point))
    exact ⟨⟨_, rfl⟩, alters_event trace (by rw [inert]; rfl)⟩

/-- A call that asks for a fixture raises it, or is refused. -/
theorem ends_ask (point : Entrypoint) (call : Call) (m : Machine) :
    (affect point call id).Ends m fun r m' => ∃ answer, r = .ok answer ∧
      match answer with
      | .ok _ => m.Alters (Event.alteration? ⟨call, .done⟩).toList m'
      | .error _ => m.Alters [] m' := by
  rw [ends_affect]
  cases m.fault point with
  | some code => exact ⟨_, rfl, alters_refuse m point call code⟩
  | none => exact ⟨_, rfl, alters_event rfl⟩

/-! ## Actions that alter nothing -/

/-- The action alters no fixture, however it ends. -/
def Quiet (act : Action Machine α) : Prop := ∀ m, act.Ends m fun _ m' => m.Alters [] m'

namespace Quiet

theorem fail (e : Error) : @Quiet α (Action.fail e) := fun m => .refl m

theorem bind {act : Action Machine α} {f : α → Action Machine β} (h : Quiet act) (h' : ∀ a, Quiet (f a)) :
    Quiet (act >>= f) := fun m => by
  rw [ends_bind]
  refine (h m).mono fun r m₁ still => ?_
  cases r with
  | error f => exact still
  | ok a => exact (h' a m₁).mono fun _ _ => still.trans

theorem ite {p : Prop} [Decidable p] {x y : Action Machine α} (hx : Quiet x) (hy : Quiet y) :
    Quiet (if p then x else y) := by
  split
  · exact hx
  · exact hy

end Quiet

theorem Completes.quiet {act : Action Machine α} (h : Completes [] act) : Quiet act := h.ends

end Machine

open Machine (Alters Completes Quiet)

/-! ## Actions that raise -/

/-- What is left of an action that raises some of `all`, in that order: the fixtures of its value stand, or it
failed and has razed again what it raised. -/
inductive Erected (all : Handle → List Fixture) (fixtures : α → List Fixture) (m : Machine) :
    Except Failure α → Machine → Prop where
  | stands {a : α} {m' : Machine} (pool : Handle) (sub : (fixtures a).Sublist (all pool))
      (raises : m.Alters (raising (fixtures a)) m') : Erected all fixtures m (.ok a) m'
  | razed {f : Failure} {m' : Machine} {part : List Fixture} (pool : Handle) (sub : part.Sublist (all pool))
      (alters : m.Alters (cycle part) m') : Erected all fixtures m (.error f) m'

/-- The action raises the fixtures of its value, or, when it fails, has razed again what it raised. -/
def Erects (all : Handle → List Fixture) (fixtures : α → List Fixture) (act : Action Machine α) : Prop :=
  ∀ m, act.Ends m (Erected all fixtures m)

section Erects

variable {all : Handle → List Fixture} {fixtures : α → List Fixture} {m m₁ m' : Machine}

/-- An action that fails before it raises anything. -/
theorem Erected.untouched {f : Failure} (h : m.Alters [] m') : Erected all fixtures m (.error f) m' :=
  .razed 0 (List.nil_sublist _) h

theorem Erected.later {r : Except Failure α} (still : m.Alters [] m₁) (h : Erected all fixtures m₁ r m') :
    Erected all fixtures m r m' := by
  cases h with
  | stands pool sub raises => exact .stands pool sub (still.trans raises)
  | razed pool sub alters => exact .razed pool sub (still.trans alters)

namespace Erects

theorem fail (e : Error) : Erects all fixtures (Action.fail e) := fun m => .untouched (.refl m)

theorem pure {a : α} (bare : fixtures a = []) : Erects all fixtures (pure a) := fun m =>
  .stands 0 (bare ▸ List.nil_sublist _) (bare ▸ .refl m)

/-- What is made of a value stands on the same fixtures. -/
theorem map {fixtures' : β → List Fixture} {act : Action Machine α} {g : α → β} (h : Erects all fixtures act)
    (same : ∀ a, fixtures' (g a) = fixtures a) : Erects all fixtures' (act >>= fun a => Pure.pure (g a)) := fun m => by
  rw [ends_bind]
  refine (h m).mono fun r m' h => ?_
  cases h with
  | stands pool sub raises => exact .stands pool (same _ ▸ sub) (same _ ▸ raises)
  | razed pool sub alters => exact .razed pool sub alters

/-- What alters nothing may come first. -/
theorem after {fixtures : β → List Fixture} {act : Action Machine α} {f : α → Action Machine β} (h : Quiet act)
    (h' : ∀ a, Erects all fixtures (f a)) : Erects all fixtures (act >>= f) := fun m => by
  rw [ends_bind]
  refine (h m).mono fun r m₁ still => ?_
  cases r with
  | error f => exact .untouched still
  | ok a => exact (h' a m₁).mono fun _ _ erected => erected.later still

theorem ite {p : Prop} [Decidable p] {x y : Action Machine α} (hx : Erects all fixtures x)
    (hy : Erects all fixtures y) : Erects all fixtures (if p then x else y) := by
  split
  · exact hx
  · exact hy

/-- A step that alters nothing, and is taken only under a condition. -/
theorem optional {p : Prop} [Decidable p] {act : Action Machine Unit} {f : Unit → Action Machine α} (h : Quiet act)
    (h' : ∀ r, Erects all fixtures (f r)) : Erects all fixtures (if p then act >>= f else f ()) :=
  .ite (.after h h') (h' ())

/-- On what stands, more is raised. Where that fails, what stood is razed. -/
theorem nest (inner : β → List Fixture) {below : List Fixture} {above : Handle → List Fixture}
    {outer : α → List Fixture} {whole : β → List Fixture} {act : Action Machine α} {f : α → Action Machine β}
    {cleanup : α → Action Machine Unit} (h : Erects (fun _ => below) outer act) (h' : ∀ a, Erects above inner (f a))
    (down : ∀ a, Completes (razing (outer a)) (cleanup a))
    (joined : ∀ a, (f a).Yields fun b => whole b = outer a ++ inner b) :
    Erects (fun pool => below ++ above pool) whole (act >>= fun a => (f a).onFailure (cleanup a)) := fun m => by
  rw [ends_bind]
  refine (h m).mono fun r m₁ h => ?_
  cases h with
  | razed _ sub alters =>
    exact .razed 0 (sub.trans (List.sublist_append_left below _)) alters
  | @stands a _ _ sub raises =>
    dsimp only
    rw [ends_onFailure]
    refine ((h' a m₁).and (joined a m₁)).mono fun r m₂ h => ?_
    obtain ⟨erected, joined⟩ := h
    cases erected with
    | @stands b _ pool sub' raises' =>
      have whole_eq := joined b rfl
      refine .stands pool (whole_eq ▸ sub.append sub') ?_
      rw [whole_eq, Fixture.raising_append]
      exact raises.trans raises'
    | @razed f _ part pool sub' alters =>
      -- The inner action has razed its part, so what stood below it is razed last.
      refine (down a m₂).mono fun r m' h => ?_
      obtain ⟨⟨_, rfl⟩, razes⟩ := h
      refine .razed pool (sub.append sub') ?_
      rw [Fixture.cycle_append]
      exact (raises.trans alters).trans razes

end Erects

end Erects

/-! ## Instances -/

theorem Platform.quiet_enumerate (point : Entrypoint) : Quiet (enumerate point) := by
  have asked : Quiet (Machine.nextFault point) := fun _ => Machine.alters_silent rfl
  refine asked.bind fun fault => ?_
  cases fault with
  | none => exact (Completes.pure _).quiet
  | some code => exact .fail _

theorem Platform.quiet_requireLoaded : Quiet requireLoaded := by
  have known : Quiet (get : Action Machine Machine) := fun m => .refl m
  exact known.bind fun _ => .ite (Completes.pure _).quiet (.fail _)

namespace Instance

/-- An instance stands, maybe with a messenger. -/
def fixtures (messenger : Option Handle) : List Fixture := .apiInstance :: messenger.toList.map .messenger

theorem completes_deliver (mask : MessengerMask) (messages : List DebugMessage) :
    Completes [] (deliver mask messages) := by
  induction messages with
  | nil => exact .pure _
  | cons message rest ih => exact .ite ((Completes.log _ _).bind fun _ => ih) ih

theorem quiet_checkValidationLayer (platform : Platform) : Quiet (checkValidationLayer platform) :=
  (Platform.quiet_enumerate _).bind fun _ => .ite (Completes.pure _).quiet (.fail _)

/-- A messenger is raised, or there is none. -/
theorem ends_createMessenger (platform : Platform) (mask : MessengerMask) (m : Machine) :
    (createMessenger platform mask).Ends m fun r m' =>
      r = .ok none ∧ m.Alters [] m' ∨
        r = .ok (some Platform.messenger) ∧ m.Alters (raising [.messenger Platform.messenger]) m' := by
  rw [createMessenger, ends_bind]
  refine (Machine.ends_ask .createMessenger (.createMessenger mask) m).mono fun r m₁ h => ?_
  obtain ⟨code | _, rfl, alters⟩ := h
  · exact .inl ⟨rfl, alters.trans (Machine.alters_told m₁ _)⟩
  · dsimp only
    rw [ends_bind]
    refine (completes_deliver mask platform.messages m₁).mono fun r m' h => ?_
    obtain ⟨⟨_, rfl⟩, still⟩ := h
    exact .inr ⟨rfl, alters.still still⟩

theorem erects_ask (platform : Platform) (wanted : InstanceRequest) :
    Erects (fun _ => [.apiInstance, .messenger Platform.messenger]) fixtures (ask platform wanted) := fun m => by
  have bare : (fixtures none).Sublist [.apiInstance, .messenger Platform.messenger] := by simp [fixtures]
  rw [ask, ends_bind, ends_orFatal]
  refine (Machine.ends_ask .createInstance (.createInstance wanted) m).mono fun r m₁ h => ?_
  obtain ⟨code | _, rfl, alters⟩ := h
  · exact .untouched alters
  · cases wanted.messenger with
    | none => exact .stands 0 bare (alters.trans (Machine.alters_told m₁ _))
    | some mask =>
      dsimp only
      rw [ends_bind]
      refine (completes_deliver mask platform.messages m₁).mono fun r m₂ h => ?_
      obtain ⟨⟨_, rfl⟩, still⟩ := h
      dsimp only
      rw [ends_bind, ends_log]
      have stands := (alters.still still).still (Machine.alters_told m₂ (.logged .trace "Created Vulkan instance"))
      refine (ends_createMessenger platform mask _).mono fun r m₃ h => ?_
      rcases h with ⟨rfl, still'⟩ | ⟨rfl, raises⟩
      · exact .stands 0 bare (stands.still still')
      · exact .stands 0 (List.Sublist.refl _) (stands.trans raises)

theorem erects_create (platform : Platform) (config : Configuration) :
    Erects (fun _ => [.apiInstance, .messenger Platform.messenger]) fixtures (create platform config) := by
  rw [create_eq]
  refine .after Platform.quiet_requireLoaded fun _ => .after (Platform.quiet_enumerate _) fun _ => .ite ?_ (.fail _)
  exact .optional (Completes.log _ _).quiet fun _ => .optional (quiet_checkValidationLayer platform) fun _ =>
    erects_ask _ _

/-- An instance that no debug utilities are wanted for has no messenger. -/
theorem yields_create (platform : Platform) {config : Configuration} (plain : config.wantsDebugUtils = false) :
    (create platform config).Yields (· = none) := by
  have unwanted : (request platform config).messenger = none := by simp [request, debugEnabled, plain]
  rw [create_eq]
  refine .after fun _ => .after fun _ => .ite (.optional fun _ => .optional fun _ => .after fun _ => ?_) (.fail _)
  rw [unwanted]
  exact .after fun _ => .pure rfl

theorem completes_destroy : Completes (razing [.apiInstance]) destroy := Machine.completes_record

end Instance

/-! ## Pools -/

namespace CommandPool

theorem alters_announced (m : Machine) (device : Device) : m.Alters [] (m.announced device) := by
  unfold Machine.announced
  cases device.route with
  | direct => exact .refl m
  | logical debugNames => exact Machine.alters_event rfl

/-- A device that takes a pool back razes it. -/
theorem completes_destroy (device : Device) (pool : Handle) (buffers : List Handle) :
    Completes (razing [.pool pool]) (device.destroyCommandPool pool buffers) := by
  have counted (f : Counters → Counters) : Completes [] (Machine.count f) := fun _ =>
    ⟨⟨(), rfl⟩, Machine.alters_silent rfl⟩
  have destroyed (buffers : List Handle) : Completes (razing [.pool pool]) (Machine.destroyCommandPool pool buffers) :=
    (counted _).bind fun _ => Machine.completes_record
  unfold Device.destroyCommandPool
  cases device.route with
  | direct => exact destroyed buffers
  | logical debugNames =>
    have freed : Completes [] (Machine.record (.freeCommandBuffers pool buffers) .done) := Machine.completes_record
    exact .ite (freed.bind fun _ => destroyed []) (destroyed [])

theorem erects_create (device : Device) (queue : Handle) (depth : Nat) (family : UInt32) (level : Int) :
    Erects (fun pool => [.pool pool]) (fun pool => [.pool pool.handle])
      (create device queue depth family level) := fun m => by
  rw [ends_create]
  split
  · exact .untouched (.refl m)
  split
  · exact .untouched (.refl m)
  cases m.fault .createCommandPool with
  | some code => exact .untouched ((alters_announced m device).trans (Machine.alters_refuse ..))
  | none =>
    have raised : m.Alters (raising [.pool (m.lastHandle + 1)]) (m.pooled device family) :=
      (alters_announced m device).trans (Machine.alters_event rfl)
    dsimp only
    cases (m.pooled device family).fault .allocateCommandBuffers with
    | some code =>
      have refused := raised.still (Machine.alters_refuse (m.pooled device family) .allocateCommandBuffers
        (.allocateCommandBuffers (m.lastHandle + 1) level depth) code)
      have razes := (completes_destroy device (m.lastHandle + 1) []).ends
      exact .razed _ (.refl _) (refused.trans (ends_finalState.1 (razes _)))
    | none =>
      have allotted : (m.pooled device family).Alters []
          ((m.pooled device family).allotted (m.lastHandle + 1) level depth) := Machine.alters_event rfl
      exact .stands _ (.refl _) ((raised.still allotted).still (Machine.alters_told ..))

/-- Releasing a pool razes it, whether or not its queue can be waited for. -/
theorem completes_release (pool : CommandPool) : Completes (razing [.pool pool.handle]) pool.release := by
  have gone := completes_destroy pool.device pool.handle (pool.slots.map (·.commandBuffer))
  have waited : Completes [] (Machine.queueWaitIdle pool.queue) := Machine.completes_affect _ fun _ => rfl
  refine (Completes.log _ _).bind fun _ => .ite (waited.bind fun answer => ?_) gone
  cases answer with
  | ok _ => exact gone
  | error code => exact (Completes.log _ _).bind fun _ => gone

end CommandPool

/-! ## Contexts -/

namespace Context

/-- On an instance stands a logical device with its pool, or nothing. -/
def deviceFixtures : Option CommandPool → List Fixture
  | none => []
  | some pool => [.device, .pool pool.handle]

/-- What a context stands on, in the order in which it was raised. -/
def fixtures (context : Context) : List Fixture :=
  Instance.fixtures context.messenger ++ deviceFixtures context.pool

theorem fixtures_bare (messenger : Option Handle) : ({ messenger } : Context).fixtures = Instance.fixtures messenger :=
  List.append_nil _

theorem completes_destroyDevice : Completes (razing [.device]) destroyDevice := by
  have gone : Completes (razing [.device]) (Machine.record .destroyDevice .done) := Machine.completes_record
  have waited : Completes [] (Machine.affect .deviceWaitIdle .deviceWaitIdle id) :=
    Machine.completes_affect _ fun _ => rfl
  refine (Completes.log _ _).bind fun _ => waited.bind fun answer => ?_
  cases answer with
  | ok _ => exact gone
  | error code => exact (Completes.log _ _).bind fun _ => gone

/-- Taking a context down razes what it stands on, the other way round. -/
theorem completes_release (context : Context) : Completes (razing context.fixtures) context.release := by
  have bare : Completes (razing [.apiInstance]) (do
      log .trace "  Destroying Instance"
      Instance.destroy
      log .trace "Vulkan Context Destroyed") :=
    (Completes.log _ _).bind fun _ => Instance.completes_destroy.bind fun _ => .log _ _
  have destroyed (messenger : Handle) :
      Completes (razing [.messenger messenger]) (Machine.record (.destroyMessenger messenger) .done) :=
    Machine.completes_record
  unfold release
  obtain ⟨_ | messenger, _ | pool⟩ := context <;> dsimp only
  · exact (Completes.log _ _).bind fun _ => bare
  · exact (Completes.log _ _).bind fun _ => pool.completes_release.bind fun _ =>
      completes_destroyDevice.bind fun _ => bare
  · exact (Completes.log _ _).bind fun _ => (Completes.log _ _).bind fun _ => (destroyed messenger).bind fun _ => bare
  · exact (Completes.log _ _).bind fun _ => pool.completes_release.bind fun _ =>
      completes_destroyDevice.bind fun _ => (Completes.log _ _).bind fun _ => (destroyed messenger).bind fun _ => bare

theorem quiet_pickDevice (platform : Platform) (index : UInt32) : Quiet (pickDevice platform index) := by
  refine (Platform.quiet_enumerate _).bind fun _ => ?_
  cases platform.devices[index.toNat]? with
  | none => exact .fail _
  | some physical => exact ((Completes.log _ _).bind fun _ => .pure _).quiet

theorem quiet_choose (families : List QueueFamily) (engine : Engine) : Quiet (QueueFamily.choose families engine) := by
  unfold QueueFamily.choose
  cases QueueFamily.select? families engine with
  | none => exact .ite ((Completes.log _ _).quiet.bind fun _ => .fail _) (.fail _)
  | some selected => exact .ite ((Completes.log _ _).bind fun _ => .pure _).quiet (Completes.pure _).quiet

theorem erects_createDevice (index : UInt32) (family : Nat) :
    Erects (fun _ => [.device]) (fun _ => [.device]) (createDevice index family) := fun m => by
  have asked : Completes [] (Machine.record (.getDeviceQueue family) .done) := Machine.completes_record
  have rest : Completes [] (do
      Machine.record (.getDeviceQueue family) .done
      log .trace ("Created logical device with one queue on family " ++ toString family)) :=
    asked.bind fun _ => .log _ _
  rw [createDevice, ends_bind, ends_orFatal]
  refine (Machine.ends_ask .createDevice (.createDevice index.toNat family) m).mono fun r m₁ h => ?_
  obtain ⟨code | _, rfl, alters⟩ := h
  · exact .untouched alters
  · refine (rest m₁).mono fun r m' h => ?_
    obtain ⟨⟨_, rfl⟩, still⟩ := h
    exact .stands 0 (.refl _) (alters.still still)

theorem erects_createPool (config : Configuration) (physical : PhysicalDevice) (hasMessenger : Bool) :
    Erects (fun pool => [.device, .pool pool]) (fun pool => [.device, .pool pool.handle])
      (createPool config physical hasMessenger) := by
  unfold createPool
  dsimp only
  refine .after (quiet_choose _ _) fun family => .optional (Completes.log _ _).quiet fun _ => ?_
  exact .nest _ (erects_createDevice _ _) (fun _ => CommandPool.erects_create _ _ _ _ _)
    (fun _ => completes_destroyDevice) fun _ _ => .of_forall fun _ _ _ _ => rfl

/-- Bringing a context up. -/
theorem erects_create (platform : Platform) (config : Configuration) :
    Erects inOrder fixtures (create platform config) := by
  unfold create
  dsimp only
  refine .nest (fun context => deviceFixtures context.pool) (Instance.erects_create platform config)
    (fun messenger => ?_) (fun messenger => fixtures_bare messenger ▸ completes_release { messenger })
    fun messenger => ?_
  · refine .after (quiet_pickDevice _ _) fun physical => .ite ?_ (.pure rfl)
    exact (erects_createPool config physical messenger.isSome).map fun _ => rfl
  · exact .after fun physical => .ite (.after fun _ => .pure rfl) (.pure rfl)

end Context

/-! ## Reports -/

/-- The instance that devices are listed through is razed, whether or not they can be listed. -/
theorem DeviceReport.ends_queryAll (platform : Platform) (m : Machine) :
    (queryAll platform).Ends m fun _ m' => ∃ fixtures : List Fixture,
      fixtures.Sublist (inOrder 0) ∧ m.Alters (cycle fixtures) m' := by
  have plain : (Configuration.disabled {}).wantsDebugUtils = false := rfl
  rw [queryAll, ends_bind]
  refine ((Instance.erects_create platform (Configuration.disabled {}) m).and
    (Instance.yields_create platform plain m)).mono fun r m₁ h => ?_
  obtain ⟨erected, bare⟩ := h
  cases erected with
  | @razed f _ part _ sub alters => exact ⟨part, sub.trans (List.sublist_append_left _ _), alters⟩
  | @stands messenger _ _ _ raises =>
    -- No messenger was asked for, so that the instance alone is what has to go.
    cases bare messenger rfl
    dsimp only
    rw [ends_bind, ends_ensuring]
    refine (Platform.quiet_enumerate _ m₁).mono fun r m₂ still => ?_
    refine (Instance.completes_destroy m₂).mono fun c m₃ razed => ?_
    obtain ⟨⟨_, rfl⟩, razes⟩ := razed
    have cycled : m.Alters (cycle [.apiInstance]) m₃ := (raises.still still).trans razes
    cases r <;> exact ⟨[.apiInstance], by simp [inOrder], cycled⟩

end CopyBench
