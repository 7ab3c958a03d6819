import CopyBench.Buffer.Staged
import CopyBench.Proofs.Buffer.Bound
import CopyBench.Proofs.Pool.Calls
/-!
# What copying and filling are made of

A copy between buffers is an acquire, a recording and a flush. A fill finds or builds a staging buffer, copies
it and possibly releases it. The rules below say so once.
-/

namespace CopyBench.StagedBuffer

open CopyBench.Action

variable {b : StagedBuffer}

/-- A copy acquires a slot, is recorded there, and the slot is flushed. -/
theorem ends_copyFrom (buffer source : BoundBuffer) (region : Region) (wait : Bool) (s : Session)
    (Q : Except Failure Unit → Session → Prop) :
    (copyFrom buffer source region wait).Ends s Q ↔ Session.acquire.Ends s fun r s₁ =>
      match r with
      | .ok a => (Session.flush a.1 wait).Ends
          { s₁ with machine := s₁.machine.queued a.2 ⟨source.handle, buffer.handle, region⟩ } Q
      | .error f => Q (.error f) s₁ := by
  rw [copyFrom, ends_bind]
  refine ends_congr fun r s₁ => ?_
  rcases r with f | ⟨index, commandBuffer⟩
  · exact Iff.rfl
  · dsimp only
    rw [ends_bind, Session.ends_lift, Machine.ends_copyBuffer]
    cases wait <;> exact Iff.rfl

/-- A buffer without a staging buffer gets one. -/
theorem ends_stage_bare (bare : b.staging = none) (contents : Contents) (s : Session)
    (Q : Except Failure StagedBuffer → Session → Prop) :
    (b.stage contents).Ends s Q ↔ (b.buildStaging contents).Ends s fun r s₁ =>
      match r with
      | .ok staging => Q (.ok { b with staging := some staging, stagingWrites := b.stagingWrites + 1 }) s₁
      | .error f => Q (.error f) s₁ := by
  rw [stage, bare]
  exact ends_bind ..

theorem ends_stage_staged {staging : BoundBuffer} (staged : b.staging = some staging) (contents : Contents)
    (s : Session) (Q : Except Failure StagedBuffer → Session → Prop) : (b.stage contents).Ends s Q ↔ Q (.ok b) s := by
  rw [stage, staged]
  exact Iff.rfl

theorem upload_staged {staging : BoundBuffer} (staged : b.staging = some staging) :
    b.upload = copyFrom b.main staging ⟨0, 0, b.requestedSize⟩ true := by
  rw [upload, staged]

theorem ends_discardStaging {staging : BoundBuffer} (staged : b.staging = some staging) (s : Session)
    (Q : Except Failure StagedBuffer → Session → Prop) :
    b.discardStaging.Ends s Q ↔ Q (.ok { b with staging := none })
      { s with machine := (s.machine.destroyed staging.handle).freed staging.memory } := by
  rw [discardStaging, staged]
  dsimp only
  rw [ends_bind, Session.ends_lift, BoundBuffer.ends_release, ends_pure]

theorem ends_discardStaging_bare (bare : b.staging = none) (s : Session)
    (Q : Except Failure StagedBuffer → Session → Prop) : b.discardStaging.Ends s Q ↔ Q (.ok b) s := by
  rw [discardStaging, bare]
  exact Iff.rfl

/-- A fill finds or builds a staging buffer, uploads it, and releases it if that is asked for. -/
theorem ends_fill (b : StagedBuffer) (contents : Contents) (discard : Bool) (s : Session)
    (Q : Except Failure (StagedBuffer × Except Failure Unit) → Session → Prop) :
    (b.fill contents discard).Ends s Q ↔ (b.stage contents).Ends s fun r s₁ =>
      match r with
      | .error f => Q (.ok (b, .error f)) s₁
      | .ok b₁ => b₁.upload.Ends s₁ fun r s₂ =>
        match r with
        | .error f => Q (.ok (b₁, .error f)) s₂
        | .ok _ =>
          if discard then b₁.discardStaging.Ends s₂ fun r s₃ =>
            match r with
            | .ok b₂ => Q (.ok (b₂, .ok ())) s₃
            | .error f => Q (.error f) s₃
          else Q (.ok (b₁, .ok ())) s₂ := by
  rw [fill, ends_bind, ends_attempt]
  refine ends_congr fun r s₁ => ?_
  cases r with
  | error f => exact Iff.rfl
  | ok b₁ =>
    dsimp only
    rw [ends_bind, ends_attempt]
    refine ends_congr fun r s₂ => ?_
    cases r with
    | error f => exact Iff.rfl
    | ok _ =>
      dsimp only
      rw [ends_ite, ends_bind, ends_pure]
      exact Iff.rfl

end CopyBench.StagedBuffer
