import CopyBench.Proofs.Bootstrap.Failures
import CopyBench.Proofs.Machine.Adding
import CopyBench.Proofs.Maintenance
import CopyBench.Proofs.Pool.Creation
/-!
# What an instance is asked for

An instance is asked for once at most, and only when all that is needed can be had. It is asked for with
what is needed and with what is wanted and available, and with nothing else. Later steps go by the debug
messenger: there is one exactly when the debug utilities were enabled and it could be made, and exactly then
a context gives names to objects.
-/

namespace CopyBench

open CopyBench.Action

/-- Whether a call brings an instance or its messenger up. -/
def Call.bringsUp : Call → Bool
  | .createInstance _ => true
  | .createMessenger _ => true
  | _ => false

/-- What an event asks of an instance, whether it gets it or not. -/
def Event.request? : Event → Option InstanceRequest
  | ⟨.createInstance request, _⟩ => some request
  | _ => none

/-- Some field of a list holds exactly a text. -/
def TextField.Listed (fields : List TextField) (text : String) : Prop :=
  ∃ field ∈ fields, field.content? = some text.toUTF8.data.toList

namespace Platform

open TextField (Listed)

theorem supports_iff {platform : Platform} {extension : String} :
    platform.supports extension = true ↔ Listed platform.extensions extension := by
  simp [supports, Listed, TextField.holds]

theorem hasLayer_iff {platform : Platform} {layer : String} :
    platform.hasLayer layer = true ↔ Listed platform.layers layer := by
  simp [hasLayer, Listed, TextField.holds]

theorem ends_enumerate (point : Entrypoint) (m : Machine) (Q : Except Failure Unit → Machine → Prop) :
    (enumerate point).Ends m Q ↔
      match m.fault point with
      | none => Q (.ok ()) (m.tallied point)
      | some code => Q (.error (.error (.configuration (.callFailed point.symbol code)))) (m.tallied point) := by
  rw [enumerate, ends_bind, Machine.ends_nextFault]
  cases m.fault point <;> exact Iff.rfl

theorem ends_requireLoaded (m : Machine) (Q : Except Failure Unit → Machine → Prop) :
    requireLoaded.Ends m Q ↔
      if m.loaderLoaded then Q (.ok ()) m else Q (.error (.error (.configuration .loaderNotLoaded))) m := by
  rw [requireLoaded, ends_bind, ends_get]
  dsimp only
  rw [ends_ite]
  exact Iff.rfl

end Platform

open TextField (Listed)

namespace Instance

variable {platform : Platform} {config : Configuration} {m : Machine} {events : List Event}
  {r : Except Failure (Option Handle)}

/-! ## The courses of bringing an instance up -/

/-- All that is needed can be had. -/
structure Ready (platform : Platform) (config : Configuration) (m : Machine) : Prop where
  loaded : m.loaderLoaded = true
  listed : m.fault .enumerateExtensions = none
  required : Listed platform.extensions requiredExtension
  validation : config.validation = true →
    m.fault .enumerateLayers = none ∧ Listed platform.layers validationLayer

/-- The event of asking for an instance. -/
def asking (platform : Platform) (config : Configuration) (reply : Reply) : Event :=
  ⟨.createInstance (request platform config), reply⟩

/-- The event of asking for a messenger. -/
def asksMessenger (config : Configuration) (reply : Reply) : Event :=
  ⟨.createMessenger (messengerMask config.debugLayer), reply⟩

/-- The courses of bringing an instance up: the events, and how it ends. -/
inductive Course (platform : Platform) (config : Configuration) (m : Machine) :
    List Event → Except Failure (Option Handle) → Prop where
  /-- Something that is needed cannot be had, and nothing is asked for. -/
  | unready {e : Error} (unready : ¬Ready platform config m) (fatal : e.isFatal = true) :
    Course platform config m [] (.error (.error e))
  | refused {e : Error} {code : ResultCode} (ready : Ready platform config m) (fatal : e.isFatal = true) :
    Course platform config m [asking platform config (.failed code)] (.error (.error e))
  /-- The instance is made without the debug utilities. -/
  | plain (ready : Ready platform config m) (disabled : debugEnabled platform config = false) :
    Course platform config m [asking platform config .done] (.ok none)
  /-- The instance is made, and its messenger cannot be. -/
  | unheard {code : ResultCode} (ready : Ready platform config m) (enabled : debugEnabled platform config = true) :
    Course platform config m [asking platform config .done, asksMessenger config (.failed code)] (.ok none)
  | heard (ready : Ready platform config m) (enabled : debugEnabled platform config = true) :
    Course platform config m [asking platform config .done, asksMessenger config .done]
      (.ok (some Platform.messenger))

/-- Messages are only noted. -/
theorem ends_deliver (mask : MessengerMask) (messages : List DebugMessage) : ∀ m,
    (deliver mask messages).Ends m fun r m' => r = .ok () ∧ m'.trace = m.trace := by
  induction messages with
  | nil => exact fun m => ⟨rfl, rfl⟩
  | cons message messages ih =>
    intro m
    rw [deliver, ends_ite]
    split
    · rw [ends_bind, ends_log]
      exact ih _
    · exact ih m

theorem ends_createMessenger_asks (platform : Platform) (config : Configuration) (m : Machine) :
    (createMessenger platform (messengerMask config.debugLayer)).Ends m fun r m' =>
      (r = .ok none ∧ ∃ code, m'.trace.toList = m.trace.toList ++ [asksMessenger config (.failed code)]) ∨
        (r = .ok (some Platform.messenger) ∧ m'.trace.toList = m.trace.toList ++ [asksMessenger config .done]) := by
  rw [createMessenger, ends_bind, Machine.ends_affect]
  cases m.fault .createMessenger with
  | some code => exact .inl ⟨rfl, code, Array.toList_push⟩
  | none =>
    dsimp only
    rw [ends_bind]
    refine (ends_deliver _ platform.messages _).mono fun r m' h => ?_
    obtain ⟨rfl, trace⟩ := h
    refine .inr ⟨rfl, ?_⟩
    rw [trace]
    exact Array.toList_push

/-- Asking for an instance when all that is needed can be had, which was known at an earlier machine. -/
theorem ends_ask_course {m₀ : Machine} (ready : Ready platform config m₀) (m : Machine) :
    (ask platform (request platform config)).Ends m fun r m' =>
      ∃ events, m'.trace.toList = m.trace.toList ++ events ∧ Course platform config m₀ events r := by
  rw [ask, ends_bind, ends_orFatal, Machine.ends_affect]
  cases m.fault .createInstance with
  | some code => exact ⟨_, Array.toList_push, .refused ready rfl⟩
  | none =>
    dsimp only
    cases enabled : debugEnabled platform config with
    | false =>
      have silent : (request platform config).messenger = none := by simp [request, enabled]
      rw [silent]
      exact ⟨_, Array.toList_push, .plain ready enabled⟩
    | true =>
      have wanted : (request platform config).messenger = some (messengerMask config.debugLayer) := by
        simp [request, enabled]
      rw [wanted]
      dsimp only
      rw [ends_bind]
      refine (ends_deliver _ platform.messages _).mono fun r m₁ h => ?_
      obtain ⟨rfl, trace⟩ := h
      dsimp only
      rw [ends_bind, ends_log]
      have asked : m₁.trace.toList = m.trace.toList ++ [asking platform config .done] := by
        rw [trace]
        exact Array.toList_push
      have both {reply : Reply} {m' : Machine}
          (more : m'.trace.toList = m₁.trace.toList ++ [asksMessenger config reply]) :
          m'.trace.toList = m.trace.toList ++ [asking platform config .done, asksMessenger config reply] := by
        rw [more, asked, List.append_assoc]
        rfl
      refine (ends_createMessenger_asks platform config _).mono fun r m' h => ?_
      obtain ⟨rfl, code, more⟩ | ⟨rfl, more⟩ := h
      · exact ⟨_, both more, .unheard ready enabled⟩
      · exact ⟨_, both more, .heard ready enabled⟩

theorem ends_create_course (platform : Platform) (config : Configuration) (m : Machine) :
    (create platform config).Ends m fun r m' =>
      ∃ events, m'.trace.toList = m.trace.toList ++ events ∧ Course platform config m events r := by
  -- Whatever is found wanting, nothing has been asked for so far.
  have stop {e : Error} {m' : Machine} (unready : ¬Ready platform config m) (fatal : e.isFatal = true)
      (trace : m'.trace = m.trace) : ∃ events, m'.trace.toList = m.trace.toList ++ events ∧
        Course platform config m events (.error (.error e)) :=
    ⟨[], by rw [trace, List.append_nil], .unready unready fatal⟩
  rw [create_eq, ends_bind, Platform.ends_requireLoaded]
  split
  case isFalse unloaded => exact stop (fun ready => unloaded ready.loaded) rfl rfl
  rename_i loaded
  dsimp only
  rw [ends_bind, Platform.ends_enumerate]
  cases listed : m.fault .enumerateExtensions with
  | some code => exact stop (fun ready => nomatch listed.symm.trans ready.listed) rfl rfl
  | none =>
    dsimp only
    rw [ends_ite]
    split
    case isFalse missing => exact stop (fun ready => missing (Platform.supports_iff.2 ready.required)) rfl rfl
    rename_i available
    have required := Platform.supports_iff.1 available
    have validated {m₁ : Machine} (trace : m₁.trace = m.trace)
        (layers : m₁.fault .enumerateLayers = m.fault .enumerateLayers) :
        (if config.validation = true then
            checkValidationLayer platform >>= fun _ => ask platform (request platform config)
          else ask platform (request platform config)).Ends m₁ fun r m' =>
            ∃ events, m'.trace.toList = m.trace.toList ++ events ∧ Course platform config m events r := by
      rw [ends_ite]
      split
      case isFalse unwanted =>
        rw [← trace]
        exact ends_ask_course ⟨loaded, listed, required, fun wanted => absurd wanted unwanted⟩ m₁
      rename_i wanted
      rw [ends_bind, checkValidationLayer, ends_bind, Platform.ends_enumerate, layers]
      cases layered : m.fault .enumerateLayers with
      | some code => exact stop (fun ready => nomatch layered.symm.trans (ready.validation wanted).1) rfl trace
      | none =>
        dsimp only
        rw [ends_ite]
        split
        case isFalse missing =>
          exact stop (fun ready => missing (Platform.hasLayer_iff.2 (ready.validation wanted).2)) rfl trace
        rename_i present
        rw [← trace]
        exact ends_ask_course
          ⟨loaded, listed, required, fun _ => ⟨layered, Platform.hasLayer_iff.1 present⟩⟩ (m₁.tallied _)
    have layers : (m.tallied .enumerateExtensions).fault .enumerateLayers = m.fault .enumerateLayers :=
      m.fault_tallied (by decide)
    rw [ends_ite]
    split
    · rw [ends_bind, ends_log]
      exact validated rfl layers
    · exact validated rfl layers

/-! ## What follows from the courses -/

/-- What an instance may be asked for. -/
structure Enables (platform : Platform) (config : Configuration) (request : InstanceRequest) : Prop where
  /-- Nothing else is enabled, nothing twice, and all in this order. -/
  extensions : request.extensions.Sublist [requiredExtension, portabilityExtension, debugExtension]
  required : requiredExtension ∈ request.extensions
  portability : portabilityExtension ∈ request.extensions ↔ Listed platform.extensions portabilityExtension
  enumerates : request.portability = true ↔ Listed platform.extensions portabilityExtension
  debug : debugExtension ∈ request.extensions ↔
    (config.validation = true ∨ config.debugLayer = true) ∧ Listed platform.extensions debugExtension
  layers : request.layers = if config.validation then [validationLayer] else []

/-- What came of bringing an instance up. -/
structure Outcome (platform : Platform) (config : Configuration) (m : Machine) (events : List Event)
    (r : Except Failure (Option Handle)) : Prop where
  asksOnce : (events.filterMap Event.request?).length ≤ 1
  /-- It is asked for when all that is needed can be had, and only then. -/
  asks : (∃ request, request ∈ events.filterMap Event.request?) ↔ Ready platform config m
  enables : ∀ request ∈ events.filterMap Event.request?, Enables platform config request
  /-- It succeeds when the instance was made, and only then. -/
  made : (∃ messenger, r = .ok messenger) ↔ ∃ request, ⟨.createInstance request, .done⟩ ∈ events
  fatal : ∀ f, r = .error f → ∃ e, f = .error e ∧ e.isFatal = true
  /-- A messenger is asked for exactly when the debug utilities were enabled. -/
  asksMessenger : (∃ mask reply, ⟨.createMessenger mask, reply⟩ ∈ events) ↔
    ∃ request, ⟨.createInstance request, .done⟩ ∈ events ∧ debugExtension ∈ request.extensions
  /-- There is a messenger exactly when the debug utilities were enabled and it could be made. -/
  messenger : (∃ messenger, r = .ok (some messenger)) ↔
    (∃ request, ⟨.createInstance request, .done⟩ ∈ events ∧ debugExtension ∈ request.extensions) ∧
      ∃ mask, ⟨.createMessenger mask, .done⟩ ∈ events

theorem debugEnabled_iff : debugEnabled platform config = true ↔
    (config.validation = true ∨ config.debugLayer = true) ∧ Listed platform.extensions debugExtension := by
  rw [debugEnabled, Bool.and_eq_true, Configuration.wantsDebugUtils, Bool.or_eq_true, Platform.supports_iff]

/-- A list of the needed extension and of two that may be left out. -/
theorem enabled_of_parts (portable debugging : Bool) :
    let extensions := [requiredExtension] ++ (if portable then [portabilityExtension] else []) ++
      (if debugging then [debugExtension] else [])
    extensions.Sublist [requiredExtension, portabilityExtension, debugExtension] ∧
      requiredExtension ∈ extensions ∧ (portabilityExtension ∈ extensions ↔ portable = true) ∧
      (debugExtension ∈ extensions ↔ debugging = true) := by
  cases portable <;> cases debugging <;> decide

theorem enables_request (platform : Platform) (config : Configuration) :
    Enables platform config (request platform config) := by
  obtain ⟨sub, required, portable, debugging⟩ :=
    enabled_of_parts (platform.supports portabilityExtension) (debugEnabled platform config)
  exact ⟨sub, required, portable.trans Platform.supports_iff, Platform.supports_iff,
    debugging.trans debugEnabled_iff, rfl⟩

/-- The debug utilities are enabled in the request exactly when they are wanted and available. -/
theorem debug_mem_request :
    debugExtension ∈ (request platform config).extensions ↔ debugEnabled platform config = true :=
  (enabled_of_parts (platform.supports portabilityExtension) (debugEnabled platform config)).2.2.2

/-- The parts of the outcome are read off the events of each course. -/
theorem Course.outcome (course : Course platform config m events r) : Outcome platform config m events r := by
  cases course with
  | unready unready fatal => constructor <;> simp [unready, fatal]
  | refused ready fatal => constructor <;> simp [asking, Event.request?, enables_request, ready, fatal]
  | plain ready disabled =>
    constructor <;> simp [asking, Event.request?, enables_request, debug_mem_request, ready, disabled]
  | unheard ready enabled | heard ready enabled =>
    constructor <;> simp [asking, asksMessenger, Event.request?, enables_request, debug_mem_request, ready, enabled]

/-- A messenger is only made when the debug utilities are wanted. -/
theorem Course.names {messenger : Option Handle} (course : Course platform config m events (.ok messenger)) :
    (config.wantsDebugUtils && messenger.isSome) = messenger.isSome := by
  have wanted (enabled : debugEnabled platform config = true) : config.wantsDebugUtils = true :=
    (Bool.and_eq_true_iff.1 enabled).1
  cases course with
  | plain | unheard => exact Bool.and_false _
  | heard _ enabled => rw [wanted enabled, Bool.true_and]

end Instance

/-! ## Contexts -/

namespace Machine

/-- From the machine `m` on, nothing was asked to be brought up. -/
def Reticent (m m' : Machine) : Prop :=
  ∃ later, m'.trace.toList = m.trace.toList ++ later ∧ ∀ event ∈ later, event.call.bringsUp = false

variable {m m₁ m₂ : Machine}

theorem Reticent.refl (m : Machine) : Reticent m m := Adds.refl m

theorem Reticent.silent (h : Reticent m m₁) (trace : m₂.trace = m₁.trace) : Reticent m m₂ := Adds.silent h trace

theorem Reticent.event (h : Reticent m m₁) {event : Event} (trace : m₂.trace = m₁.trace.push event)
    (other : event.call.bringsUp = false) : Reticent m m₂ :=
  Adds.event h trace other

theorem reticent_log (level : Level) (message : String) : Maintains (Reticent m) (log level message) :=
  .log (fun _ _ h => h.silent rfl) level message

theorem reticent_record {call : Call} (reply : Reply) (other : call.bringsUp = false := by rfl) :
    Maintains (Reticent m) (record call reply) :=
  fun _ h => h.event rfl other

theorem reticent_nextFault (point : Entrypoint) : Maintains (Reticent m) (nextFault point) := fun _ h => h.silent rfl

theorem reticent_invoke {α : Type} (point : Entrypoint) {call : Call} (shown : α → Reply)
    {work : Action Machine (Except ResultCode α)} (h : Maintains (Reticent m) work)
    (other : call.bringsUp = false := by rfl) : Maintains (Reticent m) (invoke point call shown work) :=
  (reticent_nextFault point).bind fun fault => by
    cases fault with
    | some code => exact (reticent_record (.failed code) other).bind fun _ => .pure _
    | none =>
      refine h.attempt.bind fun r => ?_
      rcases r with f | code | a
      · exact (reticent_record .crashed other).bind fun _ => .throw f
      · exact (reticent_record (.failed code) other).bind fun _ => .pure _
      · exact (reticent_record (shown a) other).bind fun _ => .pure _

theorem reticent_affect (point : Entrypoint) {call : Call} {change : Machine → Machine}
    (same : ∀ m, (change m).trace = m.trace) (other : call.bringsUp = false := by rfl) :
    Maintains (Reticent m) (affect point call change) :=
  reticent_invoke point _ ((Maintains.modify fun m₁ h => h.silent (same m₁)).bind fun _ => .pure _) other

end Machine

open Machine (Reticent reticent_log reticent_record reticent_affect)

section Reticent

variable {m : Machine}

theorem Platform.reticent_enumerate (point : Entrypoint) : Maintains (Reticent m) (enumerate point) :=
  (Machine.reticent_nextFault point).bind fun fault => by
    cases fault with
    | none => exact .pure _
    | some code => exact .fail _

theorem QueueFamily.reticent_choose (families : List QueueFamily) (engine : Engine) :
    Maintains (Reticent m) (choose families engine) := by
  unfold choose
  cases select? families engine with
  | some selected => exact .ite ((reticent_log _ _).bind fun _ => .pure _) (.pure _)
  | none => exact .ite ((reticent_log _ _).bind fun _ => .fail _) (.fail _)

theorem Device.reticent_createCommandPool (device : Device) (family : UInt32) :
    Maintains (Reticent m) (device.createCommandPool family) := by
  have made : Maintains (Reticent m) (Machine.createCommandPool family) :=
    Machine.reticent_invoke _ _ (Maintains.bind (fun _ h => h.silent rfl) fun _ =>
      (Maintains.modify fun _ h => h).bind fun _ => .pure _)
  unfold Device.createCommandPool
  cases device.route with
  | direct => exact made
  | logical debugNames => exact (reticent_record _).bind fun _ => made

theorem Device.reticent_destroyCommandPool (device : Device) (pool : Handle) (buffers : List Handle) :
    Maintains (Reticent m) (device.destroyCommandPool pool buffers) := by
  have destroyed (buffers : List Handle) : Maintains (Reticent m) (Machine.destroyCommandPool pool buffers) :=
    (Maintains.modify fun _ h => h.silent rfl).bind fun _ => reticent_record _
  unfold Device.destroyCommandPool
  cases device.route with
  | direct => exact destroyed buffers
  | logical debugNames => exact .ite ((reticent_record _).bind fun _ => destroyed []) (destroyed [])

namespace CommandPool

theorem reticent_create (device : Device) (queue : Handle) (depth : Nat) (family : UInt32) (level : Int) :
    Maintains (Reticent m) (create device queue depth family level) := by
  have allotted (pool : Handle) : Maintains (Reticent m) (Machine.allocateCommandBuffers pool level depth) :=
    Machine.reticent_invoke _ _ (Maintains.bind (fun _ h => h.silent rfl) fun _ => .pure _)
  refine .ite (.fail _) (.ite (.fail _) ?_)
  refine ((Device.reticent_createCommandPool device family).orFatal _).bind fun pool => ?_
  have kept := ((allotted pool).orFatal Entrypoint.allocateCommandBuffers.symbol).onFailure
    (Device.reticent_destroyCommandPool device pool [])
  exact kept.bind fun buffers => (reticent_log _ _).bind fun _ => .pure _

end CommandPool

namespace Context

theorem reticent_destroyDevice : Maintains (Reticent m) destroyDevice := by
  have waited : Maintains (Reticent m) (Machine.affect .deviceWaitIdle .deviceWaitIdle id) :=
    reticent_affect _ fun _ => rfl
  refine (reticent_log _ _).bind fun _ => waited.bind fun answer => ?_
  cases answer with
  | ok _ => exact reticent_record _
  | error code => exact (reticent_log _ _).bind fun _ => reticent_record _

/-- Taking a context down that has no pool. -/
theorem reticent_release_bare (messenger : Option Handle) : Maintains (Reticent m) (release { messenger }) := by
  have last : Maintains (Reticent m) (do
      log .trace "  Destroying Instance"
      Instance.destroy
      log .trace "Vulkan Context Destroyed") :=
    (reticent_log _ _).bind fun _ => Maintains.bind (reticent_record _) fun _ => reticent_log _ _
  refine (reticent_log _ _).bind fun _ => ?_
  cases messenger with
  | none => exact last
  | some messenger => exact (reticent_log _ _).bind fun _ => (reticent_record _).bind fun _ => last

theorem reticent_pickDevice (platform : Platform) (index : UInt32) :
    Maintains (Reticent m) (pickDevice platform index) := by
  refine (Platform.reticent_enumerate _).bind fun _ => ?_
  cases platform.devices[index.toNat]? with
  | none => exact .fail _
  | some physical => exact (reticent_log _ _).bind fun _ => .pure _

theorem reticent_createDevice (index : UInt32) (family : Nat) : Maintains (Reticent m) (createDevice index family) := by
  have made : Maintains (Reticent m)
      (Machine.affect .createDevice (.createDevice index.toNat family) id) := reticent_affect _ fun _ => rfl
  exact (made.orFatal _).bind fun _ => (reticent_record _).bind fun _ => reticent_log _ _

theorem reticent_createPool (config : Configuration) (physical : PhysicalDevice) (hasMessenger : Bool) :
    Maintains (Reticent m) (createPool config physical hasMessenger) := by
  refine (QueueFamily.reticent_choose _ _).bind fun family => ?_
  have pooled (device : Device) := (CommandPool.reticent_create (m := m) device Platform.queue
    CommandPool.defaultDepth family.index.toUInt32 CommandPool.primaryLevel).onFailure reticent_destroyDevice
  have made (device : Device) := (reticent_createDevice (m := m) config.deviceIndex family.index).bind fun _ =>
    pooled device
  exact .ite ((reticent_log _ _).bind fun _ => made _) (made _)

/-- A pool that was made gives names exactly when the debug utilities were wanted and there is a messenger. -/
theorem yields_createPool (config : Configuration) (physical : PhysicalDevice) (hasMessenger : Bool) :
    (createPool config physical hasMessenger).Yields fun pool =>
      pool.device.route = .logical (config.wantsDebugUtils && hasMessenger) := by
  refine .after fun family => .optional fun _ => .after fun _ => .onFailure fun m₁ => ?_
  refine (ends_eq_ok _ m₁).mono fun r m' made pool hr => ?_
  obtain ⟨-, -, rfl, -⟩ := CommandPool.create_eq (made pool hr)
  rfl

/-- The part of bringing a context up that follows the instance. -/
def furnish (platform : Platform) (config : Configuration) (messenger : Option Handle) : Action Machine Context :=
  (do
    let physical ← pickDevice platform config.deviceIndex
    if config.createsQueue then do
      let pool ← createPool config physical messenger.isSome
      pure { messenger, pool := some pool }
    else pure { messenger } : Action Machine Context).onFailure (release { messenger })

theorem create_eq (platform : Platform) (config : Configuration) :
    create platform config = Instance.create platform config >>= furnish platform config := rfl

theorem reticent_furnish (platform : Platform) (config : Configuration) (messenger : Option Handle) :
    Maintains (Reticent m) (furnish platform config messenger) := by
  refine Maintains.onFailure ((reticent_pickDevice _ _).bind fun physical => .ite ?_ (.pure _))
    (reticent_release_bare messenger)
  exact (reticent_createPool config physical _).bind fun _ => .pure _

theorem yields_furnish (platform : Platform) (config : Configuration) (messenger : Option Handle) :
    (furnish platform config messenger).Yields fun context => context.messenger = messenger ∧
      ∀ pool, context.pool = some pool → pool.device.route = .logical (config.wantsDebugUtils && messenger.isSome) := by
  refine .onFailure (.after fun physical => .ite ?_ (.pure ⟨rfl, nofun⟩))
  refine (yields_createPool config physical _).bind fun pool named => .pure ⟨rfl, ?_⟩
  rintro _ ⟨⟩
  exact named

/-- Bringing a context up asks for an instance at the start, and for none and no messenger after that. When
the instance cannot be had, nothing more happens. A context has the instance's messenger, and gives names
exactly when there is one. -/
theorem ends_create_enabled (platform : Platform) (config : Configuration) (m : Machine) :
    (Instance.create platform config).Ends m fun made m₁ =>
      (∃ events, m₁.trace.toList = m.trace.toList ++ events ∧ Instance.Outcome platform config m events made) ∧
        (create platform config).Ends m fun r m' =>
          Reticent m₁ m' ∧ (∀ f, made = .error f → r = .error f ∧ m' = m₁) ∧
            ∀ context, r = .ok context → made = .ok context.messenger ∧
              ∀ pool, context.pool = some pool → pool.device.route = .logical context.messenger.isSome := by
  refine ((ends_self _ m).and (Instance.ends_create_course platform config m)).mono fun made m₁ h => ?_
  obtain ⟨run, events, trace, course⟩ := h
  refine ⟨⟨events, trace, course.outcome⟩, ?_⟩
  rw [create_eq, ends_bind]
  refine run.mono fun made m₁ h => ?_
  obtain ⟨rfl, rfl⟩ := h
  cases made with
  | error f => exact ⟨.refl _, fun _ h => ⟨congrArg _ (Except.error.inj h), rfl⟩, nofun⟩
  | ok messenger =>
    refine ((reticent_furnish platform config messenger _ (.refl _)).and
      (yields_furnish platform config messenger _)).mono fun r m' h => ?_
    obtain ⟨reticent, given⟩ := h
    refine ⟨reticent, nofun, fun context hr => ?_⟩
    obtain ⟨rfl, named⟩ := given context hr
    exact ⟨rfl, fun pool made => (named pool made).trans (congrArg _ course.names)⟩

end Context

end Reticent

end CopyBench
