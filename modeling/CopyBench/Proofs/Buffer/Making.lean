import CopyBench.Proofs.Buffer.Creation
import CopyBench.Proofs.Buffer.Steps
/-!
# What making and filling a buffer come to

An attempt to make a buffer ends in one of four ways, one to make and write a staging buffer in one of
three, and a fill in one of four. Each way is listed with the machine that it leaves, so that what is to
be known about a machine after an attempt is a case analysis that does not look at the code again.
-/

namespace CopyBench

open CopyBench.Action

open Machine (Annotated BufferSteps)

namespace BoundBuffer

/-- The ways in which an attempt to make a buffer ends. -/
inductive Making (m : Machine) (spec : BufferSpec) : Except Failure BoundBuffer → Machine → Prop where
  | refused {f : Failure} {m' : Machine} (noted : Annotated m m') : Making m spec (.error f) m'
  /-- There is no memory for the buffer, which is destroyed again. -/
  | homeless {f : Failure} {m' : Machine} (noted : Annotated (m.buffered spec.size spec.usage spec.sharing) m') :
    Making m spec (.error f) (m'.destroyed (m.lastHandle + 1))
  /-- The buffer cannot be bound to its memory, and both are given back. -/
  | unbound {f : Failure} {m' : Machine} {size : UInt64} {memoryType : Nat}
      (noted : Annotated ((m.buffered spec.size spec.usage spec.sharing).allocated size memoryType) m') :
    Making m spec (.error f) ((m'.destroyed (m.lastHandle + 1)).freed (m.lastHandle + 2))
  | made {m' : Machine} {size : UInt64} {memoryType : Nat} (noted : Annotated (made m spec size memoryType) m') :
    Making m spec (.ok ⟨m.lastHandle + 1, m.lastHandle + 2, spec, size⟩) m'

theorem ends_create_making (device : Device) (spec : BufferSpec) (m : Machine) :
    (create device spec).Ends m (Making m spec) := by
  refine (ends_create_creation device spec m).mono fun r m' h => ?_
  obtain ⟨more, creation⟩ := h
  cases creation with
  | refused => exact .refused (Machine.annotated_refuse ..)
  | homeless => exact .homeless (.refl _)
  | unallocated => exact .homeless (Machine.annotated_refuse ..)
  | unbound => exact .unbound (Machine.annotated_refuse ..)
  | created _ _ _ _ labelled => exact .made labelled.annotated

/-- A live memory is mapped, or nothing happens to it. -/
theorem ends_map_live {b : BoundBuffer} {m : Machine} (live : m.memories.contains b.memory = true)
    (offset size : UInt64) :
    (b.map offset size).Ends m fun r m' =>
      (∃ f, r = .error f ∧ Annotated m m') ∨
        r = .ok ⟨b.memory, offset, b.mappedSize offset size⟩ ∧
          offset.toNat + (b.mappedSize offset size).toNat ≤ b.actualSize.toNat ∧
            m' = m.mapped b.memory offset (b.mappedSize offset size) := by
  by_cases fits : offset.toNat + b.reach offset size ≤ b.actualSize.toNat
  · rw [ends_map_inside live fits, toNat_mappedSize]
    cases m.fault .mapMemory with
    | some code => exact .inl ⟨_, rfl, Machine.annotated_refuse ..⟩
    | none => exact .inr ⟨rfl, fits, rfl⟩
  · rw [ends_of_error (map_outside (Nat.not_le.1 fits) m)]
    exact .inl ⟨_, rfl, .refl m⟩

end BoundBuffer

namespace StagedBuffer

/-- The ways in which an attempt to make and write a staging buffer ends. -/
inductive Building (m : Machine) (spec : BufferSpec) (size : UInt64) (contents : Contents) :
    Except Failure BoundBuffer → Machine → Prop where
  | unmade {f : Failure} {m' : Machine} (making : BoundBuffer.Making m spec (.error f) m') :
    Building m spec size contents (.error f) m'
  /-- The staging buffer cannot be mapped, and is released. -/
  | unwritten {f : Failure} {staging : BoundBuffer} {m₁ m₂ : Machine}
      (making : BoundBuffer.Making m spec (.ok staging) m₁) (noted : Annotated m₁ m₂) :
    Building m spec size contents (.error f) ((m₂.destroyed staging.handle).freed staging.memory)
  | built {staging : BoundBuffer} {m₁ : Machine} (making : BoundBuffer.Making m spec (.ok staging) m₁)
      (fits : (staging.mappedSize 0 size).toNat ≤ staging.actualSize.toNat) :
    Building m spec size contents (.ok staging) (BoundBuffer.written m₁ staging 0 (staging.mappedSize 0 size)
      (contents.pattern (staging.mappedSize 0 size).toNat))

theorem live_of_making {m m' : Machine} {spec : BufferSpec} {b : BoundBuffer}
    (making : BoundBuffer.Making m spec (.ok b) m') : m'.memories.contains b.memory = true := by
  cases making with
  | made noted =>
    rw [noted.frame]
    exact congrArg Option.isSome (Table.get?_insert_self ..)

theorem ends_buildStaging_building (buffer : StagedBuffer) (contents : Contents) (s : Session) :
    (buffer.buildStaging contents).Ends s fun r s' => s'.pool = s.pool ∧
      Building s.machine buffer.stagingSpec buffer.requestedSize contents r s'.machine := by
  rw [buildStaging, ends_bind, Session.ends_getPool]
  dsimp only
  rw [ends_bind, Session.ends_lift]
  refine (BoundBuffer.ends_create_making s.pool.device buffer.stagingSpec s.machine).mono fun r m making => ?_
  cases r with
  | error f => exact ⟨rfl, .unmade making⟩
  | ok staging =>
    dsimp only
    rw [ends_bind, Session.ends_lift, ends_onFailure, ends_bind]
    refine (BoundBuffer.ends_map_live (live_of_making making) 0 buffer.requestedSize).mono fun r m₁ h => ?_
    obtain ⟨f, rfl, noted⟩ | ⟨rfl, fits, rfl⟩ := h
    · dsimp only
      rw [BoundBuffer.ends_release]
      exact ⟨rfl, .unwritten making noted⟩
    · dsimp only
      rw [ends_bind, BoundBuffer.ends_write (contents.size_pattern _)]
      rw [show (0 : UInt64).toNat = 0 from rfl, Nat.zero_add] at fits
      exact ⟨rfl, .built making fits⟩

/-! ## Fills -/

/-- The ways in which a buffer comes to have a staging buffer: it keeps one, or one is built. -/
inductive Prepared (m : Machine) (b : StagedBuffer) (contents : Contents) :
    StagedBuffer → BoundBuffer → Machine → Prop where
  | kept {staging : BoundBuffer} (staged : b.staging = some staging) : Prepared m b contents b staging m
  | built {staging : BoundBuffer} {m' : Machine} (bare : b.staging = none)
      (building : Building m b.stagingSpec b.requestedSize contents (.ok staging) m') :
    Prepared m b contents { b with staging := some staging, stagingWrites := b.stagingWrites + 1 } staging m'

theorem Prepared.staged {m m' : Machine} {b b' : StagedBuffer} {contents : Contents} {staging : BoundBuffer}
    (h : Prepared m b contents b' staging m') : b'.staging = some staging := by
  cases h with
  | kept staged => exact staged
  | built => rfl

theorem Prepared.main {m m' : Machine} {b b' : StagedBuffer} {contents : Contents} {staging : BoundBuffer}
    (h : Prepared m b contents b' staging m') : b'.main = b.main := by
  cases h <;> rfl

/-- The copy by which a fill uploads a staging buffer. -/
def uploading (b : StagedBuffer) (staging : BoundBuffer) : RecordedCopy :=
  ⟨staging.handle, b.main.handle, ⟨0, 0, b.requestedSize⟩⟩

/-- The ways in which a fill ends: with what buffer, with what answer and on what machine. -/
inductive Filled (m : Machine) (b : StagedBuffer) (contents : Contents) (discard : Bool) :
    StagedBuffer → Except Failure Unit → Machine → Prop where
  | unprepared {f : Failure} {m' : Machine} (bare : b.staging = none)
      (building : Building m b.stagingSpec b.requestedSize contents (.error f) m') :
    Filled m b contents discard b (.error f) m'
  /-- The staging buffer could not be uploaded, and stays. -/
  | interrupted {f : Failure} {b' : StagedBuffer} {staging : BoundBuffer} {m₁ m' : Machine}
      (prepared : Prepared m b contents b' staging m₁) (steps : m₁.CopySteps (b.uploading staging) m') :
    Filled m b contents discard b' (.error f) m'
  | uploaded {b' : StagedBuffer} {staging : BoundBuffer} {m₁ m' : Machine}
      (prepared : Prepared m b contents b' staging m₁) (steps : m₁.CopySteps (b.uploading staging) m')
      (copied : m₁.CopiedAfter (b.uploading staging) m') (keeps : discard = false) :
    Filled m b contents discard b' (.ok ()) m'
  | discarded {b' : StagedBuffer} {staging : BoundBuffer} {m₁ m' : Machine}
      (prepared : Prepared m b contents b' staging m₁) (steps : m₁.CopySteps (b.uploading staging) m')
      (copied : m₁.CopiedAfter (b.uploading staging) m') (discards : discard = true) :
    Filled m b contents discard { b' with staging := none } (.ok ())
      ((m'.destroyed staging.handle).freed staging.memory)

theorem ends_stage_prepared (b : StagedBuffer) (contents : Contents) (s : Session) :
    (b.stage contents).Ends s fun r s' =>
      match r with
      | .ok b' => ∃ staging, Prepared s.machine b contents b' staging s'.machine
      | .error f => b.staging = none ∧
        Building s.machine b.stagingSpec b.requestedSize contents (.error f) s'.machine := by
  cases hstaging : b.staging with
  | some staging =>
    rw [ends_stage_staged hstaging]
    exact ⟨staging, .kept hstaging⟩
  | none =>
    rw [ends_stage_bare hstaging]
    refine (ends_buildStaging_building b contents s).mono fun r s' h => ?_
    cases r with
    | error f => exact ⟨rfl, h.2⟩
    | ok staging => exact ⟨staging, .built hstaging h.2⟩

/-- What is uploaded is the staging buffer that was found or built, whichever it was. -/
theorem Prepared.upload {m m' : Machine} {b b' : StagedBuffer} {contents : Contents} {staging : BoundBuffer}
    (h : Prepared m b contents b' staging m') :
    b'.upload = copyFrom b.main staging ⟨0, 0, b.requestedSize⟩ true := by
  rw [upload_staged h.staged, requestedSize, requestedSize, h.main]

/-- A fill finds or builds a staging buffer, without touching the pool, then copies that and releases it if that
is asked for. -/
theorem ends_fill_prepared (b : StagedBuffer) (contents : Contents) (discard : Bool) (s : Session)
    {Q : Except Failure (StagedBuffer × Except Failure Unit) → Session → Prop}
    (unprepared : ∀ f m, BufferSteps s.machine m → b.staging = none →
      Building s.machine b.stagingSpec b.requestedSize contents (.error f) m →
        Q (.ok (b, .error f)) { s with machine := m })
    (prepared : ∀ b₁ staging m, BufferSteps s.machine m → Prepared s.machine b contents b₁ staging m →
      (copyFrom b.main staging ⟨0, 0, b.requestedSize⟩ true).Ends { s with machine := m } fun r s₂ =>
        match r with
        | .error f => Q (.ok (b₁, .error f)) s₂
        | .ok _ =>
          if discard then Q (.ok ({ b₁ with staging := none }, .ok ()))
            { s₂ with machine := (s₂.machine.destroyed staging.handle).freed staging.memory }
          else Q (.ok (b₁, .ok ())) s₂) :
    (b.fill contents discard).Ends s Q := by
  have apart : Session.BufferStable fun s' => s'.pool = s.pool ∧ BufferSteps s.machine s'.machine :=
    fun s₁ m steps h => ⟨h.1, h.2.trans steps⟩
  rw [ends_fill]
  refine ((ends_stage_prepared b contents s).and (maintains_stage apart b contents s ⟨rfl, .refl⟩)).mono
    fun r s₁ h => ?_
  obtain ⟨m, pool⟩ := s₁
  obtain ⟨staged, rfl, steps⟩ := h
  cases r with
  | error f => exact unprepared f m steps staged.1 staged.2
  | ok b₁ =>
    obtain ⟨staging, ready⟩ := staged
    dsimp only
    rw [ready.upload]
    refine (prepared b₁ staging m steps ready).mono fun r s₂ h => ?_
    cases r with
    | error f => exact h
    | ok _ =>
      dsimp only at h ⊢
      rwa [ends_discardStaging ready.staged]

theorem ends_fill_filled (b : StagedBuffer) (contents : Contents) (discard : Bool) (s : Session) :
    (b.fill contents discard).Ends s fun r s' => ∃ b' result, r = .ok (b', result) ∧
      Filled s.machine b contents discard b' result s'.machine := by
  refine ends_fill_prepared b contents discard s
    (fun f m _ bare building => ⟨_, _, rfl, .unprepared bare building⟩) fun b₁ staging m _ prepared => ?_
  refine (ends_copyFrom_steps ..).mono fun r s₂ h => ?_
  cases r with
  | error f => exact ⟨_, _, rfl, .interrupted prepared h.1⟩
  | ok _ =>
    have copied := h.2 rfl rfl
    dsimp only
    split
    case isTrue discards =>
      subst discards
      exact ⟨_, _, rfl, .discarded prepared h.1 copied rfl⟩
    case isFalse keeps =>
      obtain rfl := Bool.eq_false_of_not_eq_true keeps
      exact ⟨_, _, rfl, .uploaded prepared h.1 copied rfl⟩

end StagedBuffer

end CopyBench
