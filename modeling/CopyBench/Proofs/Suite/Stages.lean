import CopyBench.Proofs.Buffer.Courses
import CopyBench.Proofs.Suite.Noting
/-!
# The stages of a measurement

A measurement makes two buffers, fills both, and copies from one to the other. At each stage between, it
owns what it made and nothing else, the buffers are as large as asked for, and those that were filled
start with the contents. Each of making, filling and copying is a course of work from one stage to
another; whether or not it goes through, nothing is owned besides.
-/

namespace CopyBench

open CopyBench.Action CopyBench.Session

open Machine (Beside)

namespace Machine

/-- The memory that a buffer is bound to starts with `octets`. -/
def Presents (m : Machine) (buffer : Handle) (octets : List UInt8) : Prop :=
  ∃ memory bytes, m.bindings.get? buffer = some memory ∧ m.memories.get? memory = some bytes ∧
    bytes.data.toList.take octets.length = octets

/-- The machine executes a copy on its way that finds `octets` at the start of both its buffers. -/
def Repeats (m : Machine) (source destination : Handle) (size : UInt64) (octets : List UInt8) (m' : Machine) :
    Prop :=
  ∃ m₁ m₂, Steps m m₁ ∧ m₁.Presents source octets ∧ m₁.Presents destination octets ∧
    m₁.copied ⟨source, destination, ⟨0, 0, size⟩⟩ = .ok m₂ ∧ SameMemory m₂ m'

end Machine

namespace CopyArguments

/-- The octets that both buffers of a measurement are filled with. -/
def octets (arguments : CopyArguments) : List UInt8 := arguments.contents.octets arguments.size.toNat

end CopyArguments

namespace CopyBuffer

variable {arguments : CopyArguments} {owners owners' filled rest : List BoundBuffer} {s : Session} {b : StagedBuffer}

/-- Where a measurement stands that has made the buffers `owners` and filled the buffers `filled`. -/
structure Stage (arguments : CopyArguments) (owners filled : List BoundBuffer) (s : Session) : Prop where
  unladen : s.Unladen
  owned : s.machine.Owned owners 0
  large : ∀ b ∈ owners, b.Sized s.machine ∧ arguments.size ≤ b.actualSize
  secure : ∀ b ∈ filled, b ∈ owners ∧ s.machine.Secure b.memory arguments.octets
  enough : arguments.size ≤ Machine.requirement s.machine.profile arguments.size

namespace Stage

theorem perm (h : Stage arguments owners filled s) (perm : owners.Perm owners') : Stage arguments owners' filled s :=
  ⟨h.unladen, h.owned.perm perm, fun b hb => h.large b (perm.mem_iff.2 hb),
    fun b hb => ⟨perm.mem_iff.1 (h.secure b hb).1, (h.secure b hb).2⟩, h.enough⟩

/-- Nothing but a note was made. -/
theorem told (h : Stage arguments owners filled s) (note : Note) :
    Stage arguments owners filled (Console.tell note s) where
  unladen := h.unladen.beside (Machine.beside_told note s.machine)
  owned := h.owned.same (Machine.sameStock_told note s.machine)
  large := h.large
  secure := fun b hb => ⟨(h.secure b hb).1, (h.secure b hb).2.starts, (h.secure b hb).2.spared⟩
  enough := h.enough

theorem known (h : Stage arguments owners filled s) : s.machine.Known := fun b copy hcopy => by
  rw [h.unladen.blank b] at hcopy
  cases hcopy

/-- What is as large as asked for stays so where memories keep their sizes. -/
theorem large_of_extents (h : Stage arguments owners filled s) {m : Machine}
    (extents : Machine.SameExtents s.machine m) : ∀ b ∈ owners, b.Sized m ∧ arguments.size ≤ b.actualSize := by
  intro b hb
  obtain ⟨sized, room⟩ := h.large b hb
  exact ⟨sized.kept (h.owned.le hb).2 extents, room⟩

/-- Where no copies wait, a memory that starts with some octets is secure. -/
theorem secure_of_take {m : Machine} {memory : Handle} {bytes : ByteArray} {octets : List UInt8}
    (blank : ∀ b, m.work b = []) (hbytes : m.memories.get? memory = some bytes)
    (starts : bytes.data.toList.take octets.length = octets) : m.Secure memory octets := by
  constructor
  · intro bytes' hbytes' _
    cases hbytes.symm.trans hbytes'
    exact starts
  · intro b copy hcopy
    rw [blank b] at hcopy
    cases hcopy

/-- Another buffer is made, or nothing is. -/
theorem create (h : Stage arguments owners filled s) {spec : BufferSpec} (asked : spec.size = arguments.size) :
    (StagedBuffer.create spec).Ends s fun r s' => (∃ more, Course s more 0 0 r s') ∧
      match r with
      | .ok b => (b.staging = none ∧ b.stagingWrites = 0 ∧ b.requestedSize = arguments.size) ∧
          Stage arguments (b.main :: owners) filled s'
      | .error _ => s'.machine.Owned owners 0 := by
  refine (StagedBuffer.ends_create_course h.unladen spec).mono fun r s' ends => ?_
  obtain ⟨⟨more, course⟩, making⟩ := ends
  refine ⟨⟨more, course⟩, ?_⟩
  cases r with
  | error f => exact h.owned.making making
  | ok b =>
    obtain ⟨main, rfl, making, rfl, actual⟩ := making
    refine ⟨⟨rfl, rfl, asked⟩, course.unladen _ rfl, h.owned.making making, ?_, fun c hc => ?_, ?_⟩
    · refine List.forall_mem_cons.2 ⟨⟨making.sized, ?_⟩, h.large_of_extents making.extents⟩
      rw [actual, asked]
      exact h.enough
    · obtain ⟨mem, secure⟩ := h.secure c hc
      exact ⟨List.mem_cons_of_mem _ mem,
        making.leaves.secure _ (h.owned.le mem).2 List.not_mem_nil _ secure⟩
    · rw [course.profile]
      exact h.enough

/-- A buffer is filled. It owns what is left of its staging buffer when that fails. -/
theorem fill (h : Stage arguments (b.main :: rest) filled s) (bare : b.staging = none)
    (asked : b.requestedSize = arguments.size) :
    (b.fill arguments.contents true).Ends s fun r s' => ∃ b' result more, r = .ok (b', result) ∧
      Course s more (successes result) 1 result s' ∧ s'.machine.Owned (b'.parts ++ rest) 0 ∧
        (result = .ok () → b'.main = b.main ∧ b'.stagingWrites = b.stagingWrites + 1 ∧
          b'.parts = [b.main] ∧ Stage arguments (b.main :: rest) (b.main :: filled) s') := by
  have mem : b.main ∈ b.main :: rest := List.mem_cons_self
  obtain ⟨sized, room⟩ := h.large b.main mem
  rw [← asked] at room
  have parts : s.machine.Owned (b.parts ++ rest) 0 := by
    rw [StagedBuffer.parts_of_bare bare]
    exact h.owned
  refine ((StagedBuffer.ends_fill_course h.unladen bare h.owned sized room (asked ▸ h.enough)
    arguments.contents).and (StagedBuffer.ends_fill_filled b arguments.contents true s)).mono fun r s' ends => ?_
  obtain ⟨⟨b', result, more, rfl, course, written⟩, _, _, heq, filled'⟩ := ends
  cases heq
  refine ⟨b', result, more, rfl, course, StagedBuffer.owned_filled parts filled', ?_⟩
  rintro rfl
  have gone := filled'.discards
  have unladen := course.unladen () rfl
  have leaves := filled'.leaves parts
  have now : s'.machine.Secure b.main.memory arguments.octets := by
    have keeps : b.Keeps s.machine [] none := .of_bare bare
    obtain ⟨bytes, hbytes, starts⟩ := filled'.brings keeps parts h.known (List.forall_mem_nil _)
    refine secure_of_take unladen.blank hbytes ?_
    rw [CopyArguments.octets, Contents.length_octets, ← asked]
    exact starts
  refine ⟨filled'.main, written rfl, gone, unladen, ?_, h.large_of_extents filled'.extents, ?_, ?_⟩
  · have owned := StagedBuffer.owned_filled parts filled'
    rw [gone] at owned
    exact owned
  · refine List.forall_mem_cons.2 ⟨⟨mem, now⟩, fun c hc => ?_⟩
    obtain ⟨hmem, secure⟩ := h.secure c hc
    refine ⟨hmem, ?_⟩
    by_cases same : c.memory = b.main.memory
    · rw [same]
      exact now
    · exact leaves.secure _ (h.owned.le hmem).2 (fun listed => same (List.mem_singleton.1 listed)) _ secure
  · rw [course.profile]
    exact h.enough

/-- A buffer that was filled presents the contents, also after steps of the pool. -/
theorem presents (h : Stage arguments owners filled s) {c : BoundBuffer} (hc : c ∈ filled) {m : Machine}
    (steps : Machine.Steps s.machine m) : m.Presents c.handle arguments.octets := by
  obtain ⟨mem, secure⟩ := h.secure c hc
  obtain ⟨sized, room⟩ := h.large_of_extents steps.extents c mem
  have owned := h.owned.same steps.sameStock
  obtain ⟨bytes, hbytes⟩ := owned.live mem
  refine ⟨c.memory, bytes, owned.binding mem, hbytes, ?_⟩
  refine (steps.leaves.secure _ (h.owned.le mem).2 List.not_mem_nil _ secure).starts bytes hbytes ?_
  rw [CopyArguments.octets, Contents.length_octets, sized bytes hbytes]
  exact room

/-- A timed copy finds the contents in both buffers, and leaves them there. -/
theorem copy {source destination : BoundBuffer}
    (h : Stage arguments [destination, source] [destination, source] s) :
    (StagedBuffer.copyFrom destination source ⟨0, 0, arguments.size⟩ true).Ends s fun r s' =>
      (∃ more, Course s more (successes r) 0 r s') ∧ s'.machine.Owned [destination, source] 0 ∧
        (r = .ok () → Stage arguments [destination, source] [destination, source] s' ∧
          s.machine.Repeats source.handle destination.handle arguments.size arguments.octets s'.machine) := by
  have hd : destination ∈ [destination, source] := List.mem_cons_self
  have hs : source ∈ [destination, source] := List.mem_cons_of_mem _ List.mem_cons_self
  obtain ⟨sourceSized, sourceRoom⟩ := h.large source hs
  obtain ⟨sized, room⟩ := h.large destination hd
  have sound := h.owned.canCopy hs hd sourceSized sized sourceRoom room
  refine ((StagedBuffer.ends_copyFrom_course h.unladen sound).and
    (StagedBuffer.ends_copyFrom_steps destination source ⟨0, 0, arguments.size⟩ true s)).mono fun r s' ends => ?_
  obtain ⟨⟨more, course⟩, steps, copied⟩ := ends
  have owned := h.owned.copySteps steps
  refine ⟨⟨more, course⟩, owned, ?_⟩
  rintro rfl
  have unladen := course.unladen () rfl
  have executed := copied rfl rfl
  have sourceSecure := (h.secure source hs).2
  have length : arguments.octets.length = arguments.size.toNat := Contents.length_octets ..
  constructor
  · refine ⟨unladen, owned, h.large_of_extents steps.extents, ?_, ?_⟩
    · refine List.forall_mem_cons.2 ⟨⟨hd, ?_⟩, List.forall_mem_singleton.2 ⟨hs, ?_⟩⟩
      · obtain ⟨bytes, hbytes, starts⟩ := executed.brings (h.owned.binding hs) (h.owned.binding hd)
          (h.owned.le hs).2 sourceSecure length
        exact secure_of_take unladen.blank hbytes (length ▸ starts)
      · -- The copy writes to the memory of the destination, which is not that of the source.
        have apart := (h.owned.apart (List.mem_singleton.2 rfl)).2
        have leaves := steps.leaves (h.owned.le hd).1 (h.owned.binding hd)
        exact leaves.secure _ (h.owned.le hs).2 (fun listed => apart (List.mem_singleton.1 listed)) _ sourceSecure
    · rw [course.profile]
      exact h.enough
  · obtain ⟨m₁, m₂, before, hcopied, same⟩ := executed
    exact ⟨m₁, m₂, before, h.presents hs before, h.presents hd before, hcopied, same⟩

end Stage

end CopyBuffer

end CopyBench
