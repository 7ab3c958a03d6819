import CopyBench.Proofs.Buffer.Errands
import CopyBench.Proofs.Buffer.Names
/-!
# Names cannot be observed

Two runs that differ only in the names of buffers, and in which names cannot be attached, look the same at
every step: what is answered, the machine without the marks of names, the pool, the buffers without their
names, and the ranges that are open.
-/

namespace CopyBench

open CopyBench.Action

/-! ## What is asked and answered, without names -/

/-- The same request, with the buffer that it creates unnamed. -/
def BufferRequest.unnamed : BufferRequest → BufferRequest
  | .create name spec => .create name spec.unnamed
  | request => request

/-- Whether a request attaches a name to a handle itself. -/
def BufferRequest.attaches : BufferRequest → Bool
  | .attachName .. => true
  | _ => false

/-- The same reply, with the buffer that it shows unnamed. -/
def BufferReply.unnamed : BufferReply → BufferReply
  | .buffer kept => .buffer kept.unnamed
  | reply => reply

/-- Replies that are the same, names aside. -/
def BufferReply.NamesAside (reply reply' : BufferReply) : Prop := reply.unnamed = reply'.unnamed

/-- Requests that are the same, names aside, are the same, unless they create buffers under two names. -/
theorem BufferRequest.eq_or_create {request request' : BufferRequest} (same : request.unnamed = request'.unnamed) :
    request = request' ∨ ∃ name spec spec', request = .create name spec ∧ request' = .create name spec' ∧
      spec.unnamed = spec'.unnamed := by
  cases request <;> cases request' <;> simp_all [unnamed]

namespace Workspace

variable {α α' β β' : Type} {R : α → α' → Prop} {w w' : Workspace}

/-- What can be seen of a workspace without looking at names. -/
@[ext]
structure View where
  /-- The machine, with its memories and the trace of all calls that attach no name. -/
  machine : Machine
  pool : CommandPool
  /-- The buffers by the names they are held under. -/
  buffers : String → Option StagedBuffer

/-- What is seen of a workspace. -/
def view (w : Workspace) : View where
  machine := w.session.machine.unnamed
  pool := w.session.pool
  buffers name := (w.buffers.get? name).map (·.unnamed)

/-- Workspaces that are the same, names aside. -/
def NamesAside (w w' : Workspace) : Prop := w.view = w'.view

theorem NamesAside.session (h : NamesAside w w') : w.session.NamesAside w'.session :=
  ⟨congrArg View.machine h, congrArg View.pool h⟩

theorem NamesAside.buffers (h : NamesAside w w') (name : String) :
    (w.buffers.get? name).map (·.unnamed) = (w'.buffers.get? name).map (·.unnamed) :=
  congrFun (congrArg View.buffers h) name

theorem namesAside_of (session : w.session.NamesAside w'.session)
    (buffers : ∀ name, (w.buffers.get? name).map (·.unnamed) = (w'.buffers.get? name).map (·.unnamed)) :
    NamesAside w w' :=
  View.ext session.machine session.pool (funext buffers)

/-! ## Requests -/

theorem matches_onSession {act : Action Session α} {act' : Action Session α'}
    (h : Matches Session.NamesAside R act act') : Matches NamesAside R (onSession act) (onSession act') := by
  rintro ⟨session, buffers⟩ ⟨session', buffers'⟩ hw
  unfold onSession
  dsimp only
  match act session, act' session', h session session' hw.session with
  | _, _, .ok value after => exact .ok value (namesAside_of after hw.buffers)
  | _, _, .error f after => exact .error f (namesAside_of after hw.buffers)

/-- What is done with the buffer held under a name, if there is one. -/
theorem matches_held {name : String} {f : Option StagedBuffer → Action Workspace α}
    {f' : Option StagedBuffer → Action Workspace α'} (none : Matches NamesAside R (f none) (f' none))
    (some : ∀ b b', b.NamesAside b' → Matches NamesAside R (f (some b)) (f' (some b'))) :
    Matches NamesAside R (held name >>= f) (held name >>= f') := fun w w' h => by
  show EndAlike NamesAside R (f (w.buffers.get? name) w) (f' (w'.buffers.get? name) w')
  have same := h.buffers name
  cases kept : w.buffers.get? name with
  | none =>
    rw [kept] at same
    rw [Option.map_eq_none_iff.1 same.symm]
    exact none w w' h
  | some b =>
    rw [kept] at same
    obtain ⟨b', kept', unnamed⟩ := Option.map_eq_some_iff.1 same.symm
    rw [kept']
    exact some b b' unnamed.symm w w' h

theorem matches_hold (name : String) {b b' : StagedBuffer} (h : b.NamesAside b') :
    Matches NamesAside Eq (hold name b) (hold name b') :=
  .modify fun w w' hw => namesAside_of hw.session fun other => by
    by_cases same : other = name
    · subst same
      rw [Table.get?_insert_self, Table.get?_insert_self]
      exact congrArg Option.some h
    · rw [Table.get?_insert_of_ne _ _ same, Table.get?_insert_of_ne _ _ same]
      exact hw.buffers other

theorem blind_unhold (name : String) :
    Blind NamesAside (modify fun w : Workspace => { w with buffers := w.buffers.erase name }) :=
  .modify fun w w' hw => namesAside_of hw.session fun other => by
    by_cases same : other = name
    · subst same
      rw [Table.get?_erase_self, Table.get?_erase_self]
    · rw [Table.get?_erase_of_ne _ same, Table.get?_erase_of_ne _ same]
      exact hw.buffers other

theorem blind_onMachine {act : Action Machine α} (h : Blind Machine.NamesAside act) :
    Blind NamesAside (onSession (Session.onMachine act)) :=
  matches_onSession (Session.matches_onMachine h)

theorem matches_releaseBuffer {b b' : StagedBuffer} (h : b.NamesAside b') :
    Matches NamesAside Eq (releaseBuffer b) (releaseBuffer b') := by
  unfold releaseBuffer
  rw [h.release]
  exact blind_onMachine b'.blind_release

theorem matches_withRange {b b' : StagedBuffer} (h : b.NamesAside b') (offset size : UInt64)
    {use : MappedRange → Action Machine α} (blind : ∀ range, Blind Machine.NamesAside (use range)) :
    Matches NamesAside Eq (withRange b offset size use) (withRange b' offset size use) := by
  unfold withRange
  rw [h.main.map]
  exact blind_onMachine ((b'.main.blind_map offset size).andThen fun range => (blind range).ensuring range.blind_unmap)

theorem matches_create (name : String) {spec spec' : BufferSpec} (same : spec.unnamed = spec'.unnamed) :
    Matches NamesAside BufferReply.NamesAside (perform (.create name spec)) (perform (.create name spec')) := by
  refine (matches_onSession (StagedBuffer.matches_create same)).bind fun b b' made => ?_
  have shown : BufferReply.NamesAside (.buffer b) (.buffer b') := congrArg BufferReply.buffer made
  refine matches_held ((matches_hold name made).andThen fun _ => .pure shown) fun old old' replaced => ?_
  exact (matches_hold name made).andThen fun _ => (matches_releaseBuffer replaced).andThen fun _ => .pure shown

/-- A request that attaches no name itself cannot tell workspaces apart that are the same, names aside. -/
theorem matches_perform_self {request : BufferRequest} (buffers : request.attaches = false) :
    Matches NamesAside BufferReply.NamesAside (perform request) (perform request) := by
  cases request with
  | create name spec => exact matches_create name rfl
  | fill name contents discard =>
    refine matches_held (.pure rfl) fun b b' h => ?_
    refine Matches.andThen ((matches_onSession (StagedBuffer.matches_fill h contents discard)).bind ?_)
      fun _ => .pure rfl
    rintro ⟨b, r⟩ ⟨b', _⟩ ⟨filled, rfl⟩
    exact (matches_hold name filled).andThen fun _ => Blind.conclude r
  | copy name source region wait =>
    refine matches_held (matches_held (.pure rfl) fun _ _ _ => .pure rfl) fun b b' h => ?_
    refine matches_held (.pure rfl) fun source source' hs => ?_
    dsimp only
    rw [StagedBuffer.copyFrom_aside h.main hs.main]
    exact (matches_onSession (StagedBuffer.blind_copyFrom _ _ region wait)).andThen fun _ => .pure rfl
  | read name offset size =>
    refine matches_held (.pure rfl) fun b b' h => ?_
    exact (matches_withRange h offset size MappedRange.blind_read).andThen fun _ => .pure rfl
  | write name offset size filling =>
    refine matches_held (.pure rfl) fun b b' h => ?_
    refine (matches_withRange h offset size fun range => ?_).mono fun _ _ => congrArg BufferReply.unnamed
    exact (range.blind_write _).andThen fun _ => .pure rfl
  | inspect name => exact matches_held (.pure rfl) fun b b' h => .pure (congrArg BufferReply.buffer h)
  | release name =>
    refine matches_held (.pure rfl) fun b b' h => ?_
    exact (blind_unhold name).andThen fun _ => (matches_releaseBuffer h).andThen fun _ => .pure rfl
  | attachName handle text => exact nomatch buffers
  | onPool operation => exact (matches_onSession (Session.blind_perform operation)).andThen fun _ => .pure rfl

/-- Requests that are the same, names aside, have replies that are the same, names aside. -/
theorem matches_perform {request request' : BufferRequest} (same : request.unnamed = request'.unnamed)
    (buffers : request.attaches = false) :
    Matches NamesAside BufferReply.NamesAside (perform request) (perform request') := by
  obtain rfl | ⟨name, spec, spec', rfl, rfl, specs⟩ := BufferRequest.eq_or_create same
  · exact matches_perform_self buffers
  · exact matches_create name specs

theorem blind_openRange (name : String) (offset size : UInt64) :
    Blind NamesAside (openRange name offset size) :=
  matches_held (.pure rfl) fun b b' h => by
    dsimp only
    rw [h.main.map]
    exact (blind_onMachine (b'.main.blind_map offset size)).andThen fun range => .pure rfl

/-! ## Errands -/

namespace Errand

/-- The same errand, with the buffer that it asks for unnamed. -/
def unnamed : Errand → Errand
  | ask request => ask request.unnamed
  | errand => errand

/-- Whether an errand asks for a name to be attached to a handle. -/
def attaches : Errand → Bool
  | ask request => request.attaches
  | _ => false

end Errand

/-- The same answer, with the buffer that it shows unnamed. -/
def Answer.unnamed : Answer → Answer
  | .replied reply => .replied reply.unnamed
  | answer => answer

/-- Desks that are the same, names aside. -/
def Desk.NamesAside (desk desk' : Desk) : Prop := Workspace.NamesAside desk.1 desk'.1 ∧ desk.2 = desk'.2

/-- Answers that are the same, names aside. -/
def Answer.NamesAside (answer answer' : Answer) : Prop := answer.unnamed = answer'.unnamed

namespace Errand

theorem blind_modify (f : List MappedRange → List MappedRange) :
    Blind Desk.NamesAside (modify fun desk : Desk => (desk.1, f desk.2)) :=
  .modify fun _ _ h => ⟨h.1, congrArg f h.2⟩

/-- Errands that are the same, names aside, are the same, unless they ask for two things. -/
theorem eq_or_ask {errand errand' : Errand} (same : errand.unnamed = errand'.unnamed) :
    errand = errand' ∨ ∃ request request', errand = ask request ∧ errand' = ask request' ∧
      request.unnamed = request'.unnamed := by
  cases errand <;> cases errand' <;> simp_all [unnamed]

theorem matches_withOpen (index : Nat) {use : MappedRange → Action Desk Answer}
    (h : ∀ range, Matches Desk.NamesAside Answer.NamesAside (use range) (use range)) :
    Matches Desk.NamesAside Answer.NamesAside (withOpen index use) (withOpen index use) :=
  .look fun desk desk' same => by
    rw [same.2]
    cases desk'.2[index]? with
    | none => exact .pure rfl
    | some range => exact h range

theorem matches_ask {request request' : BufferRequest} (same : request.unnamed = request'.unnamed)
    (buffers : request.attaches = false) :
    Matches Desk.NamesAside Answer.NamesAside (ask request).perform (ask request').perform :=
  (Workspace.matches_perform same buffers).onFirst.bind fun _ _ replies => .pure (congrArg Answer.replied replies)

theorem matches_perform_self {errand : Errand} (buffers : errand.attaches = false) :
    Matches Desk.NamesAside Answer.NamesAside errand.perform errand.perform := by
  have quiet {act : Action Machine Unit} (h : Blind Machine.NamesAside act) :
      Blind Desk.NamesAside (onFirst (onSession (Session.onMachine act))) := (blind_onMachine h).onFirst
  cases errand with
  | ask request => exact matches_ask rfl buffers
  | openRange name offset size =>
    refine (blind_openRange name offset size).onFirst.andThen fun range => ?_
    cases range with
    | none => exact .pure rfl
    | some range => exact (blind_modify (range :: ·)).andThen fun _ => .pure rfl
  | readRange index =>
    refine matches_withOpen index fun range => ?_
    exact (blind_onMachine range.blind_read).onFirst.andThen fun bytes => .pure rfl
  | writeRange index bytes =>
    refine matches_withOpen index fun range => ?_
    exact (quiet (range.blind_write bytes)).andThen fun _ => .pure rfl
  | closeRange index =>
    refine matches_withOpen index fun range => ?_
    exact (quiet range.blind_unmap).andThen fun _ => (blind_modify (·.eraseIdx index)).andThen fun _ => .pure rfl

/-- Errands that are the same, names aside, have answers that are the same, names aside. -/
theorem matches_perform {errand errand' : Errand} (same : errand.unnamed = errand'.unnamed)
    (buffers : errand.attaches = false) :
    Matches Desk.NamesAside Answer.NamesAside errand.perform errand'.perform := by
  obtain rfl | ⟨request, request', rfl, rfl, requests⟩ := eq_or_ask same
  · exact matches_perform_self buffers
  · exact matches_ask requests buffers

end Errand

/-- What is seen of an errand: its answer, and the desk that it leaves. -/
structure Sight where
  answer : Except Failure Answer
  view : View
  ranges : List MappedRange

/-- What is seen of an errand that ended so. -/
def Sight.ofResult : EStateM.Result Failure Desk Answer → Sight
  | .ok answer desk => ⟨.ok answer.unnamed, desk.1.view, desk.2⟩
  | .error f desk => ⟨.error f, desk.1.view, desk.2⟩

/-- What is seen of errands that are run in order, each whatever became of those before it. -/
def sights : List Errand → Desk → List Sight
  | [], _ => []
  | errand :: errands, desk => .ofResult (errand.perform desk) :: sights errands (errand.perform.finalState desk)

/-- The same is seen of errands that end alike. -/
theorem Sight.ofResult_congr {result result' : EStateM.Result Failure Desk Answer}
    (h : EndAlike Desk.NamesAside Answer.NamesAside result result') : ofResult result = ofResult result' := by
  cases h with
  | ok value state => rw [ofResult, ofResult, value, state.1, state.2]
  | error f state => rw [ofResult, ofResult, state.1, state.2]

/-- Pools that are made alike on machines that are the same, names aside, make workspaces that are. -/
theorem view_created {device : Device} {queue : Handle} {depth : Nat} {family : UInt32} {level : Int}
    {m m' : Machine} (same : m.unnamed = m'.unnamed) {w w' : Workspace} (bare : w.buffers = {})
    (bare' : w'.buffers = {})
    (created : CommandPool.create device queue depth family level m = .ok w.session.pool w.session.machine)
    (created' : CommandPool.create device queue depth family level m' = .ok w'.session.pool w'.session.machine) :
    w.view = w'.view := by
  have alike := CommandPool.blind_create device queue depth family level m m' same
  rw [created, created'] at alike
  cases alike with
  | ok pool machine =>
    refine View.ext machine pool (funext fun name => ?_)
    rw [view, view, bare, bare']

/-- Names cannot be observed. Whatever errands are run in workspaces that differ only in names and in which
names cannot be attached, and under whatever names, the same is seen of them at every step. -/
theorem sights_unnamed {w w' : Workspace} (alike : w.view = w'.view) {errands errands' : List Errand}
    (same : errands.map Errand.unnamed = errands'.map Errand.unnamed)
    (buffers : ∀ errand ∈ errands, errand.attaches = false) (ranges : List MappedRange) :
    sights errands (w, ranges) = sights errands' (w', ranges) := by
  suffices h : ∀ desk desk', Desk.NamesAside desk desk' → sights errands desk = sights errands' desk' from
    h _ _ ⟨alike, rfl⟩
  induction errands generalizing errands' with
  | nil =>
    rw [List.map_nil, eq_comm, List.map_eq_nil_iff] at same
    subst same
    exact fun _ _ _ => rfl
  | cons errand errands ih =>
    cases errands' with
    | nil => exact nomatch same
    | cons errand' errands' =>
      obtain ⟨first, rest⟩ := List.cons.inj same
      obtain ⟨buffer, buffers⟩ := List.forall_mem_cons.1 buffers
      have step := Errand.matches_perform first buffer
      intro desk desk' h
      rw [sights, sights, Sight.ofResult_congr (step desk desk' h), ih rest buffers _ _ (step.finalState h)]

/-- A machine that cannot attach the first name is the same as one that can, names aside. -/
theorem unnamed_losesFirst : ({ schedule := .losesFirst .nameObject } : Machine).unnamed = ({} : Machine).unnamed := by
  have schedules : Schedule.unnamed (.losesFirst .nameObject) = Schedule.unnamed .reliable := by
    funext point n
    unfold Schedule.unnamed
    split
    · rfl
    · rename_i other
      simp [Schedule.losesFirst, Schedule.ofRules, Schedule.reliable, FaultRule.covers, Ne.symm other]
  unfold Machine.unnamed
  rw [schedules]

/-- A logical device that attaches names. -/
def namingDevice : Device := { memoryTypes := [MemoryProperty.deviceLocal, 6], route := .logical true }

/-- A new workspace on a machine, through a device that attaches names. -/
def labelling (m : Machine) : Workspace := opened m namingDevice 1 3 0 0

/-- Two buffers are made, of which one is filled and the other is read. -/
def labelledPair (name name' : Option String) : List Errand :=
  [.ask (.create "x" { BufferSpec.deviceLocal 16 3 with name }),
    .ask (.create "y" { BufferSpec.deviceLocal 16 3 with name := name' }),
    .ask (.fill "x" .increasing true), .openRange "y" 0 8, .readRange 0, .closeRange 0]

/-- In one run both buffers have names, of which one cannot be attached and the other holds a null byte. In
the other run only one has a name. -/
theorem sights_labelledPair :
    sights (labelledPair (some "grid") (some "a\x00b")) (labelling { schedule := .losesFirst .nameObject }, []) =
      sights (labelledPair none (some "halo")) (labelling {}, []) := by
  have created (m : Machine) (pooled : m.fault .createCommandPool = none)
      (allotted : (m.pooled namingDevice 0).fault .allocateCommandBuffers = none) :
      CommandPool.create namingDevice 1 3 0 0 m = .ok (labelling m).session.pool (labelling m).session.machine :=
    CommandPool.create_ok rfl 1 (by decide) 0 0 pooled allotted
  have refusing := created { schedule := .losesFirst .nameObject } (by decide +kernel) (by decide +kernel)
  have reliable := created {} (by decide +kernel) (by decide +kernel)
  have alike : (labelling { schedule := .losesFirst .nameObject }).view = (labelling {}).view :=
    view_created unnamed_losesFirst rfl rfl refusing reliable
  have same (name name' : Option String) :
      (labelledPair name name').map Errand.unnamed = (labelledPair none none).map Errand.unnamed := rfl
  have buffers : ∀ errand ∈ labelledPair (some "grid") (some "a\x00b"), errand.attaches = false := by decide
  exact sights_unnamed alike ((same _ _).trans (same _ _).symm) buffers []

end Workspace

end CopyBench
