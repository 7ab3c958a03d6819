import CopyBench.Bytes
import CopyBench.Console
import CopyBench.Random.Stream
import CopyBench.Text.Ascii
import CopyBench.Text.Quoted
/-!
# Buffer contents

The byte patterns that a buffer can be filled with. Every pattern has as many
octets as it is asked for.
-/

namespace CopyBench

/-- A byte pattern. -/
inductive Contents where
  | zeros
  /-- Octet number `i` is `i` modulo 256. -/
  | increasing
  /-- The random stream of a seed. -/
  | random (seed : UInt64)
deriving DecidableEq, Repr

namespace Contents

/-- The seed of random contents when none is given. -/
def defaultSeed : UInt64 := 0x5EED

/-- The first `n` octets of a pattern. -/
def octets : Contents → Nat → List UInt8
  | zeros, n => List.replicate n 0
  | increasing, n => (List.range n).map fun i => i.toUInt8
  | random seed, n => Random.bytes seed n

/-- One period of the increasing pattern. -/
def period : ByteArray := ⟨((List.range 256).map fun i => i.toUInt8).toArray⟩

/-- The first `n` octets of a pattern, packed. -/
def pattern : Contents → Nat → ByteArray
  | zeros, n => Bytes.constant n 0
  | increasing, n => Bytes.cycled period n
  | random seed, n => Random.packed seed n

@[simp] theorem length_octets (contents : Contents) (n : Nat) : (contents.octets n).length = n := by
  cases contents <;> simp [octets]

theorem toUInt8_add_period (i : Nat) : (256 + i).toUInt8 = i.toUInt8 := by
  apply UInt8.toNat_inj.mp
  simp

/-- Whole periods, then a part of one, count up without a gap. -/
theorem flatten_period (n r : Nat) (h : r ≤ 256) :
    (List.replicate n period.data.toList).flatten ++ period.data.toList.take r =
      (List.range (n * 256 + r)).map fun i => i.toUInt8 := by
  induction n with
  | zero =>
    simp only [List.replicate_zero, List.flatten_nil, List.nil_append, Nat.zero_mul, Nat.zero_add,
      period, ← List.map_take, List.take_range, Nat.min_eq_left h]
  | succ n ih =>
    have split : List.range ((n + 1) * 256 + r) =
        List.range 256 ++ (List.range (n * 256 + r)).map (256 + ·) := by
      rw [← List.range_add]
      congr 1
      omega
    rw [List.replicate_succ, List.flatten_cons, List.append_assoc, ih, split]
    simp only [period, List.map_append, List.map_map, Function.comp_def, toUInt8_add_period]

/-- Both forms of a pattern have the same octets. -/
@[simp] theorem toList_pattern (contents : Contents) (n : Nat) :
    (contents.pattern n).data.toList = contents.octets n := by
  cases contents with
  | zeros => simp [pattern, octets, Bytes.data_constant]
  | increasing =>
    have hsize : period.size = 256 := by
      simp only [period, ByteArray.size, List.size_toArray, List.length_map, List.length_range]
    rw [pattern, octets, Bytes.toList_cycled, hsize,
      flatten_period _ _ (Nat.le_of_lt (Nat.mod_lt n (by omega))), Nat.div_add_mod']
  | random seed => simp [pattern, octets]

@[simp] theorem size_pattern (contents : Contents) (n : Nat) : (contents.pattern n).size = n := by
  rw [ByteArray.size, ← Array.length_toList, toList_pattern, length_octets]

/-- The pattern of a name in any case, if it names one. -/
def named? (name : String) (seed : UInt64) : Option Contents :=
  match Text.lowerCase name with
  | "zeros" | "zero" => some zeros
  | "increasing" | "increasingbytes" | "increasing-bytes" => some increasing
  | "random" => some (random seed)
  | _ => none

/-- The pattern of a name; a name of none is warned about and means zeros. -/
def parse {σ : Type} [Console σ] (name : String) (seed : UInt64) : Action σ Contents := do
  match named? name seed with
  | some contents => pure contents
  | none => do
    log .warn ("unknown buffer contents " ++ Text.quoted (Text.lowerCase name) ++ ", using zeros")
    pure zeros

end Contents

end CopyBench
