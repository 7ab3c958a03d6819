import CopyBench.Proofs.Pool.Passage
/-!
# Filling buffers whatever fails

A fill makes a staging buffer, copies it into the buffer, and discards it. Whatever fails on the way,
the buffer itself stays bound, and the only copy that can be left behind is one to the buffer.
-/

namespace CopyBench.StagedBuffer

open CopyBench.Action CopyBench.Session

variable {start : Machine} {events more : List Event} {targets : List Handle} {s : Session}

/-- The buffer itself is the same, and the staging buffer it keeps exists. -/
structure Kept (buffer buffer' : StagedBuffer) (m : Machine) : Prop where
  main : buffer'.main = buffer.main
  staging : ∀ staging, buffer'.staging = some staging → staging.handle ≤ m.lastHandle

theorem Kept.of_bare {buffer : StagedBuffer} (bare : buffer.staging = none) (m : Machine) : buffer.Kept buffer m :=
  ⟨rfl, by rw [bare]; exact nofun⟩

theorem Kept.later {buffer buffer' : StagedBuffer} {m m' : Machine} (h : buffer.Kept buffer' m)
    (hle : m.lastHandle ≤ m'.lastHandle) : buffer.Kept buffer' m' :=
  ⟨h.main, fun staging hstaged => Nat.le_trans (h.staging staging hstaged) hle⟩

/-- Making a buffer without staging. -/
theorem ends_create_any (targets : List Handle) (orderly : Machine.Orderly start events s.machine)
    (rested : Rested start s) (spec : BufferSpec) :
    (create spec).Ends s fun r s' => ∃ more, Passage start events targets s more r s' ∧
      ∀ b, r = .ok b → s'.machine.Binds b.main ∧ b.staging = none := by
  rw [create, ends_bind, ends_getPool]
  dsimp only
  rw [ends_bind, ends_lift]
  refine (BoundBuffer.upkeep_create s.pool.device spec s.machine).mono fun r m h => ?_
  obtain ⟨more, upkeep, discreet, made⟩ := h
  cases r with
  | error f =>
    refine ⟨more, passage_upkeep orderly rested upkeep ?_, nofun⟩
    rintro f ⟨⟩
    exact discreet f rfl
  | ok main =>
    refine ⟨more, passage_upkeep orderly rested upkeep nofun, ?_⟩
    rintro b ⟨⟩
    exact ⟨(made main rfl).1, rfl⟩

/-- Writing a staging buffer from its start on. -/
theorem tends_write (staging : BoundBuffer) (contents : Contents) (size : UInt64) :
    Machine.Tends (do
      let range ← staging.map 0 size
      range.write (contents.pattern range.size.toNat)
      range.unmap) :=
  Machine.Tends.bind (BoundBuffer.tends_map staging 0 size) fun range =>
    Machine.Tends.bind (Machine.tends_overwrite range.memory _ _) fun _ => Machine.tends_unmapMemory _

/-- Making a staging buffer, which is new. When it cannot be written it is released again. -/
theorem ends_buildStaging_any (targets : List Handle) (orderly : Machine.Orderly start events s.machine)
    (rested : Rested start s) (buffer : StagedBuffer) (contents : Contents) :
    (buffer.buildStaging contents).Ends s fun r s' => ∃ more, Passage start events targets s more r s' ∧
      ∀ b, r = .ok b → s'.machine.Binds b ∧ s.machine.lastHandle < b.handle := by
  rw [buildStaging, ends_bind, ends_getPool]
  dsimp only
  rw [ends_bind, ends_lift]
  refine (BoundBuffer.upkeep_create s.pool.device buffer.stagingSpec s.machine).mono fun r m h => ?_
  obtain ⟨more, upkeep, discreet, made⟩ := h
  cases r with
  | error f =>
    refine ⟨more, passage_upkeep orderly rested upkeep ?_, nofun⟩
    rintro f ⟨⟩
    exact discreet f rfl
  | ok staging =>
    obtain ⟨binds, new⟩ := made staging rfl
    have created : Passage start events targets s more (.ok ()) ⟨m, s.pool⟩ :=
      passage_upkeep orderly rested upkeep nofun
    dsimp only
    rw [ends_bind, ends_lift, ends_onFailure]
    refine (tends_write staging contents buffer.requestedSize m).mono fun r m₁ h => ?_
    obtain ⟨⟨more₁, written⟩, discreet⟩ := h
    cases r with
    | ok _ =>
      refine ⟨_, created.upkeep written nofun nofun, ?_⟩
      rintro b ⟨⟩
      exact ⟨BoundBuffer.binds_upkeep binds written nofun, new⟩
    | error f =>
      have hle := Nat.le_trans binds.handle_le written.lastHandle
      refine (BoundBuffer.upkeep_release hle).mono fun r m₂ h => ?_
      obtain ⟨rfl, more₂, released, -⟩ := h
      refine ⟨_, created.upkeep ((written.weaken (List.nil_subset _)).trans released) ?_ ?_, nofun⟩
      · intro o ho
        rw [List.mem_singleton.1 ho]
        exact new
      · rintro f ⟨⟩
        exact discreet _ rfl

/-- A fill of a buffer that has no staging buffer. -/
theorem ends_fill_any (orderly : Machine.Orderly start events s.machine) (rested : Rested start s)
    {buffer : StagedBuffer} (bound : s.machine.Binds buffer.main) (unstaged : buffer.staging = none)
    (target : buffer.main.handle ∈ targets) (contents : Contents) :
    (buffer.fill contents true).Ends s fun r s' => ∃ b result more, r = .ok (b, result) ∧
      Passage start events targets s more result s' ∧ buffer.Kept b s'.machine := by
  rw [ends_fill, ends_stage_bare unstaged]
  refine (ends_buildStaging_any targets orderly rested buffer contents).mono fun r s₁ h => ?_
  obtain ⟨more, built, made⟩ := h
  cases r with
  | error f => exact ⟨_, _, more, rfl, built.error, .of_bare unstaged _⟩
  | ok staging =>
    obtain ⟨binds, new⟩ := made staging rfl
    dsimp only
    rw [upload_staged rfl]
    refine (ends_copyFrom_any built.onward.orderly built.rested (built.onward.binds bound) binds _
      target).mono fun r s₂ h => ?_
    obtain ⟨more₁, copied⟩ := h
    have uploaded := built.trans copied
    have hle := (copied.onward.binds binds).handle_le
    cases r with
    | error f =>
      refine ⟨_, _, _, rfl, uploaded, rfl, ?_⟩
      rintro _ ⟨⟩
      exact hle
    | ok _ =>
      dsimp only
      have releases := BoundBuffer.upkeep_release hle
      rw [BoundBuffer.ends_release] at releases
      obtain ⟨-, more₂, released, -⟩ := releases
      rw [if_pos rfl, ends_discardStaging rfl]
      refine ⟨_, _, _, rfl, uploaded.upkeep released ?_ nofun, rfl, nofun⟩
      intro o ho
      rw [List.mem_singleton.1 ho]
      exact new

/-- Releasing a buffer and its staging buffer destroys it. -/
theorem upkeep_release {m : Machine} {buffer buffer' : StagedBuffer} (kept : buffer.Kept buffer' m)
    (hle : buffer.main.handle ≤ m.lastHandle) :
    buffer'.release.Ends m fun r m' => r = .ok () ∧ ∃ touched more, Machine.Upkeep m touched more m' ∧
      Destroyed more buffer.main.handle := by
  obtain ⟨hmain, hstaging⟩ := kept
  have main {m₁ : Machine} {touched : List Handle} {more : List Event} (upkeep : Machine.Upkeep m touched more m₁) :
      buffer.main.release.Ends m₁ fun r m' => r = .ok () ∧ ∃ touched more, Machine.Upkeep m touched more m' ∧
        Destroyed more buffer.main.handle := by
    refine (BoundBuffer.upkeep_release (Nat.le_trans hle upkeep.lastHandle)).mono fun r m₂ h => ?_
    obtain ⟨rfl, more', released, gone⟩ := h
    exact ⟨rfl, touched ++ [buffer.main.handle], more ++ more', (upkeep.weaken (by simp)).trans
      (released.weaken (by simp)), List.mem_append_right _ gone⟩
  rw [release, hmain]
  cases hstaged : buffer'.staging with
  | none => exact main (.refl m)
  | some staging =>
    dsimp only
    rw [ends_bind]
    refine (BoundBuffer.upkeep_release (hstaging staging hstaged)).mono fun r m₁ h => ?_
    obtain ⟨rfl, more, released, -⟩ := h
    exact main released

end CopyBench.StagedBuffer
