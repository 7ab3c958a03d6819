import CopyBench.Proofs.Machine.Adding
import CopyBench.Proofs.Machine.Steps
import CopyBench.Proofs.Pool.Passage
import CopyBench.Proofs.Trace.Confirmed
/-!
# Copies that are waited for

A pool whose slots are idle makes a copy and waits for it. When that succeeds its slots are idle again, and
nothing is under way. Whatever fails before the wait leaves nothing under way either. Only a wait that fails
leaves the copy under way, with the buffer it goes to in use.
-/

namespace CopyBench

open CopyBench.Action

/-- Every slot is idle. -/
def CommandPool.Idle (pool : CommandPool) : Prop := ∀ slot ∈ pool.slots, slot.state = .idle

namespace CommandPool

theorem Idle.setState {pool : CommandPool} (idle : pool.Idle) (index : Nat) : (pool.setState index .idle).Idle := by
  intro slot hmem
  obtain ⟨j, hj⟩ := List.mem_iff_getElem?.1 hmem
  rw [Session.slots_setState, List.getElem?_modify, Option.map_eq_map, Option.map_eq_some_iff] at hj
  obtain ⟨old, hold, rfl⟩ := hj
  have rested := idle old (List.mem_of_getElem? hold)
  split
  · rfl
  · exact rested

end CommandPool

namespace Machine

/-- The events since the start, with one more. -/
theorem traced_push {start m m' : Machine} {events : List Event} {event : Event}
    (trace : m.trace.toList = start.trace.toList ++ events) (pushed : m'.trace = m.trace.push event) :
    m'.trace.toList = start.trace.toList ++ (events ++ [event]) := by
  rw [pushed, Array.toList_push, trace, List.append_assoc]

/-- A machine that went on with calls that neither submit nor wait. -/
def Aloof (m m' : Machine) : Prop :=
  ∃ more, m'.trace.toList = m.trace.toList ++ more ∧ ∀ event ∈ more, event.call.Aloof

theorem Aloof.refl (m : Machine) : Aloof m m := Adds.refl m

theorem Aloof.trans {m₁ m₂ m₃ : Machine} (h : Aloof m₁ m₂) (h' : Aloof m₂ m₃) : Aloof m₁ m₃ := Adds.trans h h'

theorem aloof_event {m m' : Machine} {event : Event} (trace : m'.trace = m.trace.push event)
    (aloof : event.call.Aloof) : Aloof m m' :=
  adds_event trace aloof

end Machine

namespace Session

variable {start : Machine} {targets : List Handle} {events : List Event} {s s' : Session} {index : Nat}
  {b fence : Handle} {copy : RecordedCopy} {r : Except Failure Unit}

/-- A session went on with calls that neither submit nor wait, and its pool is the same. -/
structure Aloof (s s' : Session) : Prop where
  pool : s'.pool = s.pool
  machine : s.machine.Aloof s'.machine

theorem Aloof.refl (s : Session) : Aloof s s := ⟨rfl, .refl _⟩

theorem Aloof.trans {s₁ s₂ s₃ : Session} (h : Aloof s₁ s₂) (h' : Aloof s₂ s₃) : Aloof s₁ s₃ :=
  ⟨h'.pool.trans h.pool, h.machine.trans h'.machine⟩

/-- What has become of a pool since a machine was at its start. -/
inductive Aftermath (start : Machine) (targets : List Handle) : Except Failure Unit → Session → Prop where
  /-- Nothing is under way, and the slots are idle unless something failed. -/
  | calm {r : Except Failure Unit} {s : Session} {events : List Event}
      (trace : s.machine.trace.toList = start.trace.toList ++ events) (calm : Calm events)
      (idle : r = .ok () → s.pool.Idle) : Aftermath start targets r s
  /-- A wait failed, and one of the targets is in use. -/
  | doomed {f : Failure} {s : Session} {events : List Event} {target : Handle}
      (trace : s.machine.trace.toList = start.trace.toList ++ events) (mem : target ∈ targets)
      (doomed : Doomed events target) : Aftermath start targets (.error f) s

theorem Aftermath.refl (idle : s.pool.Idle) : Aftermath s.machine targets (.ok ()) s :=
  .calm (List.append_nil _).symm calm_nil fun _ => idle

/-- What failed before it was submitted has left nothing under way. -/
theorem Aftermath.failed {f : Failure} (trace : s.machine.trace.toList = start.trace.toList ++ events)
    (calm : Calm events) : Aftermath start targets (.error f) s :=
  .calm trace calm nofun

/-- What comes afterwards, without a submission or a wait, changes nothing about it. -/
theorem Aftermath.aloof (h : Aftermath start targets r s) (aloof : s.Aloof s') :
    Aftermath start targets r s' := by
  obtain ⟨pool, more, onward, aloof⟩ := aloof
  cases h with
  | calm trace calm idle =>
    rw [trace, List.append_assoc] at onward
    exact .calm onward (calm.append aloof) (pool ▸ idle)
  | doomed trace mem doomed =>
    rw [trace, List.append_assoc] at onward
    exact .doomed onward mem (doomed.append aloof)

/-- A failure of something else leaves nothing under way where nothing was. -/
theorem Aftermath.fail (h : Aftermath start targets (.ok ()) s) (f : Failure) :
    Aftermath start targets (.error f) s := by
  cases h with
  | calm trace calm idle => exact .failed trace calm

/-- A fence is waited for that was submitted last. -/
theorem ends_awaitFence_aftermath {queue : Handle} (live : fence ∈ s.machine.liveFences)
    (trace : s.machine.trace.toList =
      start.trace.toList ++ (events ++ [⟨.queueSubmit queue b (some fence), .done⟩]))
    (calm : Calm events) (held : copy ∈ holding events b) (target : copy.destination ∈ targets)
    (idle : (s.pool.setState index .idle).Idle) :
    (awaitFence index fence).Ends s (Aftermath start targets) := by
  have gone (m : Machine) : m.Aloof (m.unfenced fence) := Machine.aloof_event rfl trivial
  have refused (code : ResultCode) (f : Failure) : Aftermath start targets (.error f)
      ⟨(s.machine.refuse .waitForFence (.waitForFence fence fenceTimeout) code).unfenced fence, s.pool⟩ := by
    let m := s.machine.refuse .waitForFence (.waitForFence fence fenceTimeout) code
    -- The wait fails before the fence is destroyed, and that is no wait.
    have waited : Aftermath start targets (.error f) ⟨m, s.pool⟩ :=
      .doomed (Machine.traced_push trace rfl) target (doomed_of_wait held queue fence fenceTimeout code)
    exact waited.aloof ⟨rfl, gone m⟩
  rw [awaitFence, ends_bind, ends_lift, Machine.ends_waitForFence _ _ _ live]
  split
  · exact refused _ _
  split
  · exact refused _ _
  · have waited : Aftermath start targets (.ok ())
        ⟨s.machine.waited fence fenceTimeout, s.pool.setState index .idle⟩ :=
      .calm (Machine.traced_push trace rfl) (calm.awaited queue b fence fenceTimeout) fun _ => idle
    exact waited.aloof ⟨rfl, gone _⟩

theorem ends_submitFenced_aftermath (live : fence ∈ s.machine.liveFences)
    (trace : s.machine.trace.toList = start.trace.toList ++ events) (calm : Calm events)
    (held : copy ∈ holding events b) (target : copy.destination ∈ targets)
    (idle : (s.pool.setState index .idle).Idle) :
    (submitFenced index b fence).Ends s (Aftermath start targets) := by
  rw [submitFenced, ends_bind, ends_getPool]
  dsimp only
  rw [ends_bind, ends_recover, ends_lift, ends_orOperational]
  refine (Machine.ends_queueSubmit_reply s.pool.device s.pool.queue b
    fun _ h => Option.some.inj h ▸ live).mono fun r m h => ?_
  obtain ⟨fences, reply, submitted, accepted, -⟩ := h
  rw [trace, List.append_assoc] at submitted
  -- What was not accepted has left nothing under way.
  have declined (refused : r ≠ .ok (.ok ())) (f : Failure) : Aftermath start targets (.error f) ⟨m, s.pool⟩ := by
    refine .failed submitted (calm.snoc ?_)
    cases reply with
    | done => exact refused (accepted.2 rfl)
    | _ => trivial
  have gone (m : Machine) : m.Aloof (m.unfenced fence) := Machine.aloof_event rfl trivial
  rcases r with (e | p) | code | _
  · exact (declined (by simp) _).aloof ⟨rfl, gone m⟩
  · exact declined (by simp) _
  · exact (declined (by simp) _).aloof ⟨rfl, gone m⟩
  · cases accepted.1 rfl
    dsimp only
    rw [ends_bind, ends_setState]
    exact ends_awaitFence_aftermath (s := ⟨m, s.pool.setState index .pending⟩) (fences ▸ live) submitted calm held
      target ((setState_setState s.pool index .pending .idle).symm ▸ idle)

theorem ends_submitAndWait_aftermath (trace : s.machine.trace.toList = start.trace.toList ++ events)
    (calm : Calm events) (held : copy ∈ holding events b) (target : copy.destination ∈ targets)
    (idle : (s.pool.setState index .idle).Idle) :
    (submitAndWait index b).Ends s (Aftermath start targets) := by
  rw [ends_submitAndWait]
  cases s.machine.fault .createFence with
  | some code => exact .failed (Machine.traced_push trace rfl) (calm.snoc trivial)
  | none =>
    have held : copy ∈ holding (events ++ [⟨.createFence, .handle (s.machine.lastHandle + 1)⟩]) b := by
      rw [holding_snoc]
      exact held
    exact ends_submitFenced_aftermath (s := ⟨s.machine.fenced, s.pool⟩) List.mem_cons_self
      (Machine.traced_push trace rfl) (calm.snoc trivial) held target idle

/-- A slot that is open and holds a copy is flushed. -/
theorem ends_flush_aftermath (hslot : s.pool.slots[index]? = some ⟨b, .recording⟩)
    (trace : s.machine.trace.toList = start.trace.toList ++ events) (calm : Calm events)
    (held : copy ∈ holding events b) (target : copy.destination ∈ targets)
    (idle : (s.pool.setState index .idle).Idle) : (flush index true).Ends s (Aftermath start targets) := by
  rw [ends_flush_open s hslot rfl]
  cases s.machine.fault .endCommandBuffer with
  | some code => exact .failed (Machine.traced_push trace rfl) (calm.snoc trivial)
  | none =>
    dsimp only
    rw [if_pos rfl]
    have held : copy ∈ holding (events ++ [⟨.endCommandBuffer b, .done⟩]) b := by
      rw [holding_snoc]
      exact held
    exact ends_submitAndWait_aftermath (s := ⟨s.machine.ended b, s.pool.setState index .executable⟩)
      (Machine.traced_push trace rfl) (calm.snoc trivial) held target
      ((setState_setState s.pool index .executable .idle).symm ▸ idle)

end Session

open Session

/-- A copy is made and waited for, from a pool whose slots are idle. -/
theorem StagedBuffer.ends_copyFrom_aftermath {start : Machine} {targets : List Handle} {s : Session}
    (h : Aftermath start targets (.ok ()) s) {buffer : BoundBuffer} (target : buffer.handle ∈ targets)
    (source : BoundBuffer) (region : Region) :
    (copyFrom buffer source region true).Ends s (Aftermath start targets) := by
  cases h with
  | @calm _ _ events trace calm idle =>
    replace idle := idle rfl
    rw [ends_copyFrom]
    cases hslot : s.pool.slots[s.pool.cursor]? with
    | none =>
      rw [ends_acquire_none hslot]
      exact .failed trace calm
    | some slot =>
      rw [ends_acquire_idle hslot (idle slot (List.mem_of_getElem? hslot))]
      cases s.machine.fault .beginCommandBuffer with
      | some code => exact .failed (Machine.traced_push trace rfl) (calm.snoc trivial)
      | none =>
        let b := slot.commandBuffer
        let copy : RecordedCopy := ⟨source.handle, buffer.handle, region⟩
        have began : (s.machine.began b simultaneousUse).trace.toList = _ := Machine.traced_push trace rfl
        have begun : Calm (events ++ [⟨.beginCommandBuffer b simultaneousUse, .done⟩]) := calm.snoc trivial
        have hopen := slot_setState .recording (show (turned s.pool).slots[s.pool.cursor]? = some slot from hslot)
        refine ends_flush_aftermath (s := ⟨_, (turned s.pool).setState s.pool.cursor .recording⟩) hopen
          (Machine.traced_push began (Machine.trace_queued ..)) (begun.snoc trivial)
          (mem_holding_recorded _ b copy) target ?_
        rw [setState_setState]
        exact CommandPool.Idle.setState (show (turned s.pool).Idle from idle) s.pool.cursor

end CopyBench
