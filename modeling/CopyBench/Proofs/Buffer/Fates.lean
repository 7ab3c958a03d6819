import CopyBench.Proofs.Buffer.Making
import CopyBench.Proofs.Buffer.Runs
import CopyBench.Proofs.Pool.Holding
/-!
# What requests do with copies that a slot holds

Calls on buffers leave alone what slots hold. A copy between buffers acquires a slot, and so does a fill: with
the copies of other slots they do what an acquire does with them. So what a request has in store for the copies
of a slot is what its operation on the pool has in store for them, or nothing.
-/

namespace CopyBench

open CopyBench.Action

open Machine (BufferSteps)

/-- What a request has in store for the copies of slot `index`, while the ring stands at `cursor`. -/
def BufferRequest.fate (index cursor : Nat) (slotState : SlotState) : BufferRequest → Fate
  | onPool operation => operation.fate index cursor slotState
  | fill .. | copy .. => PoolOperation.acquire.fate index cursor slotState
  | create .. | read .. | write .. | inspect _ | release _ | attachName .. => .held

/-! ## Calls on buffers -/

theorem Call.OnBuffers.inert {call : Call} (on : call.OnBuffers) : call.Inert := by
  cases call <;> trivial

theorem Machine.BufferStep.adds {m m' : Machine} (step : BufferStep m m') : m.Adds (·.call.OnBuffers) m' := by
  cases step with
  | told note => exact .refl _
  | refused point code on => exact adds_event rfl on
  | named | buffered | allocated | bound | mapped | unmappable | unmapped | destroyed | freed =>
    exact adds_event rfl trivial
  | overwritten memory offset patch =>
    unfold Machine.overwritten
    split <;> exact .refl _

theorem Machine.BufferSteps.adds {m m' : Machine} (steps : BufferSteps m m') : m.Adds (·.call.OnBuffers) m' := by
  induction steps with
  | refl => exact .refl _
  | tail _ last ih => exact ih.trans last.adds

namespace Session

variable {s : Session} {index : Nat} {b : Handle} {state : SlotState} {fate : Fate}

/-- Calls on buffers change nothing about the fate of copies. -/
theorem bufferStable_fares : BufferStable (s.Fares index b fate) := fun s₁ m steps fares => by
  by_cases held : fate = .held
  · subst held
    exact fares.quiet (steps.adds.mono fun _ on => spares_of_inert on.inert) rfl
  · exact fares.onward held steps.device

/-- A copy between buffers does with the copies of a slot what its acquire does with them. -/
theorem ends_copyFrom_meets (holds : s.Holds index b state) (buffer source : BoundBuffer) (region : Region)
    (wait : Bool) : (StagedBuffer.copyFrom buffer source region wait).Ends s
      (s.Meets index b (PoolOperation.acquire.fate index s.pool.cursor state)) := by
  rw [StagedBuffer.ends_copyFrom]
  refine ((ends_acquire_fate holds).and (ends_acquire_steps .refl)).mono fun r s₁ h => ?_
  obtain ⟨meets, -, opened⟩ := h
  rcases r with f | ⟨j, b'⟩
  · cases meets with
    | met fares => exact .met fares _
    | kept fares => exact .kept fares f
  · cases meets with
    | met fares =>
      obtain ⟨rfl, opened⟩ := opened j b' rfl
      let s₂ : Session := { s₁ with machine := s₁.machine.queued b' ⟨source.handle, buffer.handle, region⟩ }
      by_cases here : s.pool.cursor = index
      · -- The acquire has decided already.
        refine (maintains_flush _ wait s₂ .refl).mono fun r s' steps => ?_
        refine .met (fares.onward ?_ (.head (.queued ..) (Machine.Steps.device steps))) r
        rw [PoolOperation.fate_acquire, if_pos here]
        split <;> nofun
      · rw [PoolOperation.fate_acquire, if_neg here] at fares ⊢
        obtain ⟨state, holds⟩ := fares.holds rfl
        have apart : b' ≠ b := fun same => here (holds.distinct.index_eq opened.slot holds.slot same)
        have queued : s.Fares index b .held s₂ :=
          fares.quiet (Machine.adds_event (Machine.trace_queued ..) fun _ => if_neg apart) rfl
        exact (maintains_flush_aside here wait s₂ queued).mono fun r _ fares => .met fares r

theorem ends_fill_meets (holds : s.Holds index b state) (buffer : StagedBuffer) (contents : Contents)
    (discard : Bool) : (buffer.fill contents discard).Ends s fun r s' => ∃ b' result, r = .ok (b', result) ∧
      s.Meets index b (PoolOperation.acquire.fate index s.pool.cursor state) result s' := by
  have apart {m : Machine} (steps : BufferSteps s.machine m) : s.Fares index b .held { s with machine := m } :=
    bufferStable_fares s m steps (.refl holds)
  refine StagedBuffer.ends_fill_prepared buffer contents discard s
    (fun f m steps _ _ => ⟨_, _, rfl, .kept (apart steps) f⟩) fun b₁ staging m steps prepared => ?_
  have holds : Holds { s with machine := m } index b state := holds.frame rfl
  refine (ends_copyFrom_meets holds buffer.main staging _ true).mono fun r s₂ meets => ?_
  cases meets.after (apart steps) with
  | kept fares f => exact ⟨_, _, rfl, .kept fares f⟩
  | met fares =>
    cases r with
    | error f => exact ⟨_, _, rfl, .met fares _⟩
    | ok _ =>
      dsimp only
      split
      case isFalse => exact ⟨_, _, rfl, .met fares _⟩
      case isTrue =>
        have released : BufferSteps s₂.machine ((s₂.machine.destroyed staging.handle).freed staging.memory) :=
          .tail (.single (.destroyed ..)) (.freed ..)
        exact ⟨_, _, rfl, .met (bufferStable_fares s₂ _ released fares) _⟩

end Session

/-! ## Requests -/

namespace Workspace

variable {w : Workspace} {index : Nat} {b : Handle} {state : SlotState} {fate : Fate}

/-- How a request ends that has a fate in store for the copies of slot `index`: they have it, or they are held
because the request failed or needs a buffer that is not there. -/
inductive Meets (w : Workspace) (index : Nat) (b : Handle) (fate : Fate) :
    Except Failure BufferReply → Workspace → Prop where
  | met {w' : Workspace} (fares : w.session.Fares index b fate w'.session) (r : Except Failure BufferReply) :
    Meets w index b fate r w'
  | failed {w' : Workspace} (fares : w.session.Fares index b .held w'.session) (f : Failure) :
    Meets w index b fate (.error f) w'
  | absent {w' : Workspace} (fares : w.session.Fares index b .held w'.session) : Meets w index b fate (.ok .notHeld) w'

/-- What is replied does not matter to what became of the copies. -/
theorem Meets.of_session {α : Type} {r : Except Failure α} {s : Session} (h : w.session.Meets index b fate r s)
    (buffers : Table String StagedBuffer) (reply : α → BufferReply) :
    w.Meets index b fate (r.map reply) ⟨s, buffers⟩ := by
  cases h with
  | met fares => exact .met fares _
  | kept fares f => exact .failed fares f

/-- Every request does with the copies of a slot what it has in store for them, unless it fails or needs a
buffer that is not there. -/
theorem ends_perform_meets (holds : w.session.Holds index b state) (request : BufferRequest) :
    (perform request).Ends w (w.Meets index b (request.fate index w.session.pool.cursor state)) := by
  have aside {request : BufferRequest} (nothing : ¬request.Copies)
      (no_pool : ∀ operation, request ≠ .onPool operation) :
      (perform request).Ends w (w.Meets index b .held) :=
    (maintains_perform Session.bufferStable_fares request (absurd · nothing)
      (fun operation heq => absurd heq (no_pool operation)) w (.refl holds)).mono fun r _ fares => .met fares r
  cases request with
  | fill name contents discard =>
    refine ends_held_cases (fun _ => .absent (.refl holds)) fun buffer _ => ?_
    dsimp only
    rw [ends_bind, ends_fill]
    refine (Session.ends_fill_meets holds buffer contents discard).mono fun r s h => ?_
    obtain ⟨b', result, rfl, meets⟩ := h
    cases result <;> exact .of_session meets _ fun _ => .done
  | copy name source region wait =>
    refine ends_held_cases (fun _ => ?_) fun buffer _ => ends_held_cases (fun _ => ?_) fun source _ => ?_
    · exact ends_held_cases (fun _ => .absent (.refl holds)) fun _ _ => .absent (.refl holds)
    · exact .absent (.refl holds)
    · dsimp only
      rw [ends_bind, ends_onSession]
      refine (Session.ends_copyFrom_meets holds buffer.main source.main region wait).mono fun r s meets => ?_
      cases r <;> exact .of_session meets _ fun _ => .done
  | onPool operation =>
    rw [ends_perform_onPool]
    refine (Session.ends_perform_meets holds operation).mono fun r s meets => ?_
    cases r <;> exact .of_session meets _ .pool
  | create | read | write | inspect | release | attachName => exact aside id nofun

end Workspace

end CopyBench
