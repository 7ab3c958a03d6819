import CopyBench.Proofs.Buffer.Ownership
import CopyBench.Proofs.Buffer.Runs
/-!
# What a request comes to

A request to a workspace ends in one of a few ways, whatever fails in between. Each is listed with what
it leaves of the machine and what is held afterwards, so that what runs of requests preserve is shown by
cases and without the text of any request.
-/

namespace CopyBench

open CopyBench.Action

open Machine (Annotated CopySteps CopiedAfter Steps)

namespace Machine

/-- The machine without some bound buffers, which were released one after another. -/
def without (m : Machine) : List BoundBuffer → Machine
  | [] => m
  | b :: parts => ((m.destroyed b.handle).freed b.memory).without parts

theorem Owned.without {m : Machine} {parts rest : List BoundBuffer} {ranges : Nat}
    (h : m.Owned (parts ++ rest) ranges) : (m.without parts).Owned rest ranges := by
  induction parts generalizing m with
  | nil => exact h
  | cons b parts ih => exact ih (Owned.released h)

end Machine

namespace StagedBuffer

theorem ends_release (b : StagedBuffer) (m : Machine) (Q : Except Failure Unit → Machine → Prop) :
    b.release.Ends m Q ↔ Q (.ok ()) (m.without b.parts) := by
  unfold release
  cases hstaging : b.staging with
  | none =>
    rw [parts_of_bare hstaging]
    exact BoundBuffer.ends_release ..
  | some staging =>
    rw [parts_of_staged hstaging]
    dsimp only
    rw [ends_bind, BoundBuffer.ends_release]
    exact BoundBuffer.ends_release ..

/-- What the release of a buffer leaves in the trace. -/
def farewell (buffer : StagedBuffer) : List Event :=
  buffer.parts.flatMap fun b => [⟨.destroyBuffer b.handle, .done⟩, ⟨.freeMemory b.memory, .done⟩]

/-- A buffer gives back its staging buffer, its staging memory, itself and its memory, in that order. -/
theorem trace_without_parts (b : StagedBuffer) (m : Machine) :
    (m.without b.parts).trace.toList = m.trace.toList ++ b.farewell := by
  have gone (m : Machine) (parts : List BoundBuffer) : (m.without parts).trace.toList = m.trace.toList ++
      parts.flatMap fun b => [⟨.destroyBuffer b.handle, .done⟩, ⟨.freeMemory b.memory, .done⟩] := by
    induction parts generalizing m with
    | nil => exact (List.append_nil _).symm
    | cons b parts ih =>
      rw [Machine.without, ih, List.flatMap_cons, ← List.append_assoc]
      congr 1
      change ((m.trace.push _).push _).toList = _
      simp
  exact gone m b.parts

theorem ends_create_making (spec : BufferSpec) (s : Session) :
    (create spec).Ends s fun r s' =>
      match r with
      | .ok b => ∃ main, b = { main } ∧ BoundBuffer.Making s.machine spec (.ok main) s'.machine
      | .error f => BoundBuffer.Making s.machine spec (.error f) s'.machine := by
  rw [create, ends_bind, Session.ends_getPool]
  dsimp only
  rw [ends_bind, Session.ends_lift]
  refine (BoundBuffer.ends_create_making s.pool.device spec s.machine).mono fun r m making => ?_
  cases r with
  | error f => exact making
  | ok main => exact ⟨main, rfl, making⟩

end StagedBuffer

/-- The names under which a request looks for buffers. -/
def BufferRequest.names : BufferRequest → List String
  | .fill name .. | .read name .. | .write name .. | .inspect name | .release name => [name]
  | .copy name source .. => [name, source]
  | .create .. | .attachName .. | .onPool _ => []

/-- Whether a request may leave nothing but notes. -/
def BufferRequest.Annotates : BufferRequest → Prop
  | .read .. | .write .. | .attachName .. => True
  | _ => False

namespace Workspace

variable {w : Workspace} {name : String} {b : StagedBuffer} {α : Type}

/-- The memory of every buffer that is held is live. -/
def Live (w : Workspace) : Prop :=
  ∀ name b, w.buffers.get? name = some b → w.session.machine.memories.contains b.main.memory = true

/-- The ways in which a request ends. -/
inductive Performed (w : Workspace) : BufferRequest → Except Failure BufferReply → Workspace → Prop where
  /-- Nothing is held under a name that the request needs. -/
  | absent {request : BufferRequest} {name : String} (named : name ∈ request.names)
      (absent : w.buffers.get? name = none) (reply : BufferReply) : Performed w request (.ok reply) w
  | inspected {name : String} {b : StagedBuffer} (held : w.buffers.get? name = some b) :
    Performed w (.inspect name) (.ok (.buffer b)) w
  /-- A range could not be mapped, or an object was named. -/
  | noted {request : BufferRequest} {m : Machine} (annotates : request.Annotates)
      (annotated : Annotated w.session.machine m) (r : Except Failure BufferReply) :
    Performed w request r ⟨⟨m, w.session.pool⟩, w.buffers⟩
  | unmade {name : String} {spec : BufferSpec} {f : Failure} {s : Session}
      (making : BoundBuffer.Making w.session.machine spec (.error f) s.machine) :
    Performed w (.create name spec) (.error f) ⟨s, w.buffers⟩
  | made {name : String} {spec : BufferSpec} {main : BoundBuffer} {s : Session}
      (absent : w.buffers.get? name = none)
      (making : BoundBuffer.Making w.session.machine spec (.ok main) s.machine) :
    Performed w (.create name spec) (.ok (.buffer { main })) ⟨s, w.buffers.insert name { main }⟩
  /-- The buffer that was held under the name is released. -/
  | replaced {name : String} {spec : BufferSpec} {main : BoundBuffer} {s : Session} {b : StagedBuffer}
      (held : w.buffers.get? name = some b)
      (making : BoundBuffer.Making w.session.machine spec (.ok main) s.machine) :
    Performed w (.create name spec) (.ok (.buffer { main }))
      ⟨⟨s.machine.without b.parts, s.pool⟩, w.buffers.insert name { main }⟩
  | filled {name : String} {contents : Contents} {discard : Bool} {b b' : StagedBuffer}
      {result : Except Failure Unit} {s : Session} (held : w.buffers.get? name = some b)
      (filled : StagedBuffer.Filled w.session.machine b contents discard b' result s.machine) :
    Performed w (.fill name contents discard) (result.map fun _ => .done) ⟨s, w.buffers.insert name b'⟩
  | copied {name source : String} {region : Region} {wait : Bool} {b b' : StagedBuffer} {s : Session}
      (held : w.buffers.get? name = some b) (sourceHeld : w.buffers.get? source = some b')
      (steps : w.session.machine.CopySteps ⟨b'.main.handle, b.main.handle, region⟩ s.machine)
      (r : Except Failure BufferReply) : Performed w (.copy name source region wait) r ⟨s, w.buffers⟩
  | read {name : String} {offset size : UInt64} {b : StagedBuffer} (held : w.buffers.get? name = some b)
      (reply : BufferReply) :
    Performed w (.read name offset size) (.ok reply)
      ⟨⟨(w.session.machine.mapped b.main.memory offset (b.main.mappedSize offset size)).unmapped
        b.main.memory, w.session.pool⟩, w.buffers⟩
  | written {name : String} {offset size : UInt64} {filling : Filling} {b : StagedBuffer}
      (held : w.buffers.get? name = some b) (patch : ByteArray)
      (fits : offset.toNat + patch.size ≤ b.main.actualSize.toNat) (reply : BufferReply) :
    Performed w (.write name offset size filling) (.ok reply)
      ⟨⟨((w.session.machine.mapped b.main.memory offset (b.main.mappedSize offset size)).overwritten
        b.main.memory offset.toNat patch).unmapped b.main.memory, w.session.pool⟩, w.buffers⟩
  | released {name : String} {b : StagedBuffer} (held : w.buffers.get? name = some b) :
    Performed w (.release name) (.ok (.released true))
      ⟨⟨w.session.machine.without b.parts, w.session.pool⟩, w.buffers.erase name⟩
  | pooled {operation : PoolOperation} {s : Session} (steps : Steps w.session.machine s.machine)
      (r : Except Failure BufferReply) : Performed w (.onPool operation) r ⟨s, w.buffers⟩

/-- A range of a live memory is mapped while it is used, or it cannot be mapped. -/
theorem ends_withRange (live : w.session.machine.memories.contains b.main.memory = true)
    (offset size : UInt64) (use : MappedRange → Action Machine α)
    {Q : Except Failure α → Workspace → Prop}
    (noted : ∀ f m, Annotated w.session.machine m → Q (.error f) ⟨⟨m, w.session.pool⟩, w.buffers⟩)
    (used : let range : MappedRange := ⟨b.main.memory, offset, b.main.mappedSize offset size⟩
      offset.toNat + range.size.toNat ≤ b.main.actualSize.toNat →
      (use range).Ends (w.session.machine.mapped range.memory range.offset range.size) fun r m =>
        Q r ⟨⟨m.unmapped range.memory, w.session.pool⟩, w.buffers⟩) :
    (withRange b offset size use).Ends w Q := by
  rw [withRange, ends_onSession, Session.ends_onMachine, ends_bind]
  refine (BoundBuffer.ends_map_live live offset size).mono fun r m h => ?_
  obtain ⟨f, rfl, annotated⟩ | ⟨rfl, fits, rfl⟩ := h
  · exact noted f m annotated
  · dsimp only
    rw [ends_ensuring]
    refine (used fits).mono fun r m h => ?_
    rw [MappedRange.unmap, Machine.ends_unmapMemory]
    exact h

theorem ends_releaseBuffer (b : StagedBuffer) (w : Workspace) (Q : Except Failure Unit → Workspace → Prop) :
    (releaseBuffer b).Ends w Q ↔
      Q (.ok ()) ⟨⟨w.session.machine.without b.parts, w.session.pool⟩, w.buffers⟩ := by
  rw [releaseBuffer, ends_onSession, Session.ends_onMachine, StagedBuffer.ends_release]

/-- Every request ends in one of the ways that are listed. -/
theorem ends_perform_performed (live : w.Live) (request : BufferRequest) :
    (perform request).Ends w (Performed w request) := by
  cases request with
  | create name spec =>
    rw [perform, ends_bind, ends_onSession]
    refine (StagedBuffer.ends_create_making spec w.session).mono fun r s h => ?_
    cases r with
    | error f => exact .unmade h
    | ok b =>
      obtain ⟨main, rfl, making⟩ := h
      refine ends_held_cases (fun hb => .made hb making) fun replaced hb => ?_
      dsimp only
      rw [ends_bind, ends_hold]
      dsimp only
      rw [ends_bind, ends_releaseBuffer]
      exact .replaced hb making
  | fill name contents discard =>
    refine ends_held_cases (fun hb => .absent (List.mem_singleton.2 rfl) hb _) fun b hb => ?_
    dsimp only
    rw [ends_bind, ends_fill]
    refine (StagedBuffer.ends_fill_filled b contents discard w.session).mono fun r s h => ?_
    obtain ⟨b', result, rfl, filled⟩ := h
    cases result <;> exact .filled hb filled
  | copy name source region wait =>
    refine ends_held_cases (fun hb => .absent List.mem_cons_self hb _) fun b hb => ?_
    refine ends_held_cases (fun hb' => .absent (List.mem_cons_of_mem _ (List.mem_singleton.2 rfl)) hb' _)
      fun b' hb' => ?_
    dsimp only
    rw [ends_bind, ends_onSession]
    refine (StagedBuffer.ends_copyFrom_steps b.main b'.main region wait w.session).mono fun r s h => ?_
    cases r <;> exact .copied hb hb' h.1 _
  | read name offset size =>
    refine ends_held_cases (fun hb => .absent (List.mem_singleton.2 rfl) hb _) fun b hb => ?_
    dsimp only
    rw [ends_bind]
    refine ends_withRange (live name b hb) offset size _ (fun f m annotated => ?_) fun _ => ?_
    · exact .noted (show BufferRequest.Annotates (.read name offset size) from trivial) annotated _
    · exact .read hb _
  | write name offset size filling =>
    refine ends_held_cases (fun hb => .absent (List.mem_singleton.2 rfl) hb _) fun b hb => ?_
    refine ends_withRange (live name b hb) offset size _ (fun f m annotated => ?_) fun fits => ?_
    · exact .noted (show BufferRequest.Annotates (.write name offset size filling) from trivial) annotated _
    · dsimp only
      rw [ends_bind, MappedRange.write, Machine.ends_overwrite]
      -- What is written was cut to the range, and the range lies in the buffer.
      exact .written hb _ (Nat.le_trans (Nat.add_le_add_left (BoundBuffer.size_cut ..) _) fits) _
  | inspect name =>
    exact ends_held_cases (fun hb => .absent (List.mem_singleton.2 rfl) hb _) fun b hb => .inspected hb
  | release name =>
    refine ends_held_cases (fun hb => .absent (List.mem_singleton.2 rfl) hb _) fun b hb => ?_
    dsimp only
    rw [ends_bind, ends_modify]
    dsimp only
    rw [ends_bind, ends_releaseBuffer]
    exact .released hb
  | attachName handle text =>
    rw [perform, ends_bind, ends_onSession, ends_bind, Session.ends_getPool]
    dsimp only
    rw [ends_orOperational, Session.ends_lift]
    refine (BoundBuffer.ends_nameObject_labelled ..).mono fun r m h => ?_
    have annotates : BufferRequest.Annotates (.attachName handle text) := trivial
    obtain ⟨_ | _, names, rfl, labelled⟩ := h <;> exact .noted annotates labelled.annotated _
  | onPool operation =>
    rw [ends_perform_onPool]
    refine (Session.maintains_perform operation w.session .refl).mono fun r s steps => ?_
    cases r <;> exact .pooled steps _

/-! ## Ranges that stay open -/

/-- The ways in which a range is opened, or not. -/
inductive Mapping (w : Workspace) : Except Failure (Option MappedRange) → Workspace → Prop where
  | absent : Mapping w (.ok none) w
  | noted {m : Machine} (annotated : Annotated w.session.machine m) (f : Failure) :
    Mapping w (.error f) ⟨⟨m, w.session.pool⟩, w.buffers⟩
  | opened {name : String} {b : StagedBuffer} (held : w.buffers.get? name = some b) (offset size : UInt64)
      (fits : offset.toNat + size.toNat ≤ b.main.actualSize.toNat) :
    Mapping w (.ok (some ⟨b.main.memory, offset, size⟩))
      ⟨⟨w.session.machine.mapped b.main.memory offset size, w.session.pool⟩, w.buffers⟩

theorem ends_openRange (live : w.Live) (name : String) (offset size : UInt64) :
    (openRange name offset size).Ends w (Mapping w) := by
  refine ends_held_cases (fun _ => .absent) fun b hb => ?_
  dsimp only
  rw [ends_bind, ends_onSession, Session.ends_onMachine]
  refine (BoundBuffer.ends_map_live (live name b hb) offset size).mono fun r m h => ?_
  obtain ⟨f, rfl, annotated⟩ | ⟨rfl, fits, rfl⟩ := h
  · exact .noted annotated f
  · exact .opened hb offset _ fits

theorem finalState_writeOpen (range : MappedRange) (bytes : ByteArray) (w : Workspace) :
    (writeOpen range bytes).finalState w =
      ⟨⟨w.session.machine.overwritten range.memory range.offset.toNat (bytes.extract 0 range.size.toNat),
        w.session.pool⟩, w.buffers⟩ := rfl

theorem finalState_closeRange (range : MappedRange) (w : Workspace) :
    (closeRange range).finalState w =
      ⟨⟨w.session.machine.unmapped range.memory, w.session.pool⟩, w.buffers⟩ := rfl

end Workspace

end CopyBench
