import CopyBench.Buffer.Workspace
/-!
# A plain store of bytes

What a workspace looks like to a caller who sees bytes only: cells under names, each a list of octets
with the pattern that its staging memory keeps. Nothing here speaks of devices, slots or handles, so
how deep a pool is cannot matter to a store.
-/

namespace CopyBench

/-- The octets of `bytes` with `patch` over those from `offset` on. -/
def patched (bytes : List UInt8) (offset : Nat) (patch : List UInt8) : List UInt8 :=
  bytes.take offset ++ patch ++ bytes.drop (offset + patch.length)

theorem length_patched {bytes patch : List UInt8} {offset : Nat}
    (h : offset + patch.length ≤ bytes.length) : (patched bytes offset patch).length = bytes.length := by
  simp [patched]
  omega

/-- The first `n` octets of a filling. -/
def Filling.octets : Filling → Nat → List UInt8
  | constant octet, n => List.replicate n octet
  | pattern contents, n => contents.octets n

@[simp] theorem Filling.toList_bytes (filling : Filling) (n : Nat) :
    (filling.bytes n).data.toList = filling.octets n := by
  cases filling <;> simp [bytes, octets, Bytes.data_constant]

@[simp] theorem Filling.length_octets (filling : Filling) (n : Nat) : (filling.octets n).length = n := by
  cases filling <;> simp [octets]

/-- A buffer as its bytes. -/
structure Cell where
  spec : BufferSpec
  bytes : List UInt8
  /-- The pattern that later fills repeat. -/
  staged : Option Contents := none
  stagingWrites : Nat := 0

namespace Cell

/-- A cell that was just made. -/
def fresh (profile : MemoryProfile) (spec : BufferSpec) : Cell where
  spec := spec
  bytes := List.replicate (Machine.requirement profile spec.size).toNat Machine.freshByte

/-- The cell after a fill. The pattern of an earlier fill is used again unless it was discarded. -/
def fill (cell : Cell) (contents : Contents) (discard : Bool) : Cell :=
  let used := cell.staged.getD contents
  { cell with
    bytes := patched cell.bytes 0 (used.octets cell.spec.size.toNat)
    staged := if discard then none else some used
    stagingWrites := cell.stagingWrites + if cell.staged.isSome then 0 else 1 }

/-- The octets of a range. -/
def range (cell : Cell) (offset size : Nat) : List UInt8 := (cell.bytes.drop offset).take size

/-- The cell with octets of another one, or of its own, copied into it. -/
def copy (cell source : Cell) (region : Region) : Cell :=
  { cell with
    bytes := patched cell.bytes region.destinationOffset.toNat
      (source.range region.sourceOffset.toNat region.size.toNat) }

/-- How many octets a mapping covers. -/
def reach (cell : Cell) (offset size : UInt64) : Nat :=
  if size = wholeSize then cell.bytes.length - offset.toNat else size.toNat

/-- The cell after a mapped range was written. -/
def write (cell : Cell) (offset size : UInt64) (filling : Filling) : Cell :=
  { cell with bytes := patched cell.bytes offset.toNat (filling.octets (cell.reach offset size)) }

end Cell

/-- What a store answers. -/
inductive StoreReply where
  | done
  | cell (spec : BufferSpec) (size : Nat) (staged : Bool) (stagingWrites : Nat)
  | bytes (bytes : List UInt8)
  | written (size : Nat)
  | released (held : Bool)
  | notHeld
deriving DecidableEq, Repr

/-- What there is to see of a cell besides its bytes. -/
def Cell.summary (cell : Cell) : StoreReply :=
  .cell cell.spec cell.bytes.length cell.staged.isSome cell.stagingWrites

/-- A reply of a workspace without its handles; replies about the pool do not occur. -/
def BufferReply.summary : BufferReply → StoreReply
  | .done | .pool _ => .done
  | .buffer b => .cell b.main.spec b.main.actualSize.toNat b.staging.isSome b.stagingWrites
  | .bytes octets => .bytes octets
  | .written size => .written size
  | .released wasHeld => .released wasHeld
  | .notHeld => .notHeld

/-- Cells under names. -/
abbrev Store := Table String Cell

namespace Store

/-- What a request does to a store, and what it is answered. -/
def perform (profile : MemoryProfile) (store : Store) : BufferRequest → StoreReply × Store
  | .create name spec =>
    let cell := Cell.fresh profile spec
    (cell.summary, store.insert name cell)
  | .fill name contents discard =>
    match store.get? name with
    | none => (.notHeld, store)
    | some cell => (.done, store.insert name (cell.fill contents discard))
  | .copy name source region _ =>
    match store.get? name, store.get? source with
    | some cell, some source => (.done, store.insert name (cell.copy source region))
    | _, _ => (.notHeld, store)
  | .read name offset size =>
    match store.get? name with
    | none => (.notHeld, store)
    | some cell => (.bytes (cell.range offset.toNat (cell.reach offset size)), store)
  | .write name offset size filling =>
    match store.get? name with
    | none => (.notHeld, store)
    | some cell => (.written (cell.reach offset size), store.insert name (cell.write offset size filling))
  | .inspect name =>
    match store.get? name with
    | none => (.notHeld, store)
    | some cell => (cell.summary, store)
  | .release name =>
    match store.get? name with
    | none => (.released false, store)
    | some _ => (.released true, store.erase name)
  | .attachName _ _ | .onPool _ => (.done, store)

/-- Whether a request can succeed: memory can be had for the buffers that it makes, and its ranges lie
in the buffers that it names. Requests to the pool are not meant for a store. -/
def Allows (profile : MemoryProfile) (types : List UInt32) (store : Store) : BufferRequest → Prop
  | .create _ spec =>
    (MemoryType.find? types profile.typeBits spec.properties).isSome ∧
      spec.size ≤ Machine.requirement profile spec.size
  | .fill name _ _ => ∀ cell, store.get? name = some cell → cell.staged = none →
    (MemoryType.find? types profile.typeBits (BufferSpec.staging cell.spec.size).properties).isSome
  | .copy name source region _ => ∀ cell sourceCell, store.get? name = some cell →
    store.get? source = some sourceCell →
      region.sourceOffset.toNat + region.size.toNat ≤ sourceCell.bytes.length ∧
        region.destinationOffset.toNat + region.size.toNat ≤ cell.bytes.length
  | .read name offset size | .write name offset size _ => ∀ cell, store.get? name = some cell →
    offset.toNat + cell.reach offset size ≤ cell.bytes.length
  | .inspect _ | .release _ | .attachName _ _ => True
  | .onPool _ => False

instance (profile : MemoryProfile) (types : List UInt32) (store : Store) :
    DecidablePred (store.Allows profile types)
  | .create _ _ => inferInstanceAs (Decidable (_ ∧ _))
  | .fill name _ _ => inferInstanceAs (Decidable (∀ cell ∈ store.get? name, cell.staged = none → _))
  | .copy name source region _ =>
    decidable_of_iff (∀ cell ∈ store.get? name, ∀ sourceCell ∈ store.get? source,
        region.sourceOffset.toNat + region.size.toNat ≤ sourceCell.bytes.length ∧
          region.destinationOffset.toNat + region.size.toNat ≤ cell.bytes.length)
      ⟨fun h cell sourceCell hcell => h cell hcell sourceCell, fun h cell hcell sourceCell => h cell sourceCell hcell⟩
  | .read name offset size | .write name offset size _ =>
    inferInstanceAs (Decidable (∀ cell ∈ store.get? name, offset.toNat + cell.reach offset size ≤ cell.bytes.length))
  | .inspect _ | .release _ | .attachName _ _ => inferInstanceAs (Decidable True)
  | .onPool _ => inferInstanceAs (Decidable False)

/-- How many copies a request has executed. -/
def copies (store : Store) : BufferRequest → Nat
  | .fill name _ _ => if store.contains name then 1 else 0
  | .copy name source _ _ => if store.contains name ∧ store.contains source then 1 else 0
  | _ => 0

end Store

/-! ## What a caller sees -/

namespace Workspace

/-- The octets of the buffer that is held under a name. -/
def octets (w : Workspace) (name : String) : Option (List UInt8) := do
  let b ← w.buffers.get? name
  let memory ← w.session.machine.bindings.get? b.main.handle
  let bytes ← w.session.machine.memories.get? memory
  pure bytes.data.toList

/-- The copies that wait in the command buffers of the pool. -/
def waiting (w : Workspace) : List RecordedCopy :=
  w.session.pool.slots.flatMap fun slot =>
    (w.session.machine.recorded.get? slot.commandBuffer).getD []

end Workspace

end CopyBench
