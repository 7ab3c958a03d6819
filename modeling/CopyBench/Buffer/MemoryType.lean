import CopyBench.Text.Flags
/-!
# The search for a memory type

A buffer says which memory types it may use, as a mask with one bit for each,
and which properties it needs. The first type that satisfies both is taken.
-/

namespace CopyBench.MemoryType

/-- Whether the mask `filter` allows the type with number `index`. -/
def allowed (filter : UInt32) (index : Nat) : Bool := filter.toNat.testBit index

/-- Whether type number `index`, with the properties `flags`, will do. -/
def suits (filter required : UInt32) (index : Nat) (flags : UInt32) : Bool :=
  allowed filter index && Flags.includes flags required

/-- The number of the first suitable type, when the first of `types` has number `index`. -/
def findFrom (filter required : UInt32) : Nat → List UInt32 → Option Nat
  | _, [] => none
  | index, flags :: types =>
    if suits filter required index flags then some index
    else findFrom filter required (index + 1) types

/-- The number of the first suitable type. -/
def find? (types : List UInt32) (filter required : UInt32) : Option Nat :=
  findFrom filter required 0 types

end CopyBench.MemoryType
