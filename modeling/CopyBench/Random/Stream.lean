import CopyBench.Bytes
/-!
# Streams of random bytes

A seed of 64 bits is spread over a key by a small generator, and the key is
expanded by a block cipher of twelve rounds that counts its blocks from zero.
The stream of a seed is the blocks one after another.
-/

namespace CopyBench.Random

/-! ## From a seed to a key -/

/-- The next state of the generator that spreads the seed. -/
def advance (state : UInt64) : UInt64 := state * 6364136223846793005 + 11634580027462260723

/-- `x` rotated by `n` bits towards the low end, for `n` below 32. -/
def rotateRight (x : UInt32) (n : UInt32) : UInt32 :=
  if n = 0 then x else (x >>> n) ||| (x <<< (32 - n))

/-- The word that a state of the generator gives. -/
def output (state : UInt64) : UInt32 :=
  rotateRight (((state >>> 18) ^^^ state) >>> 27).toUInt32 (state >>> 59).toUInt32

/-- The words of `n` steps of the generator. -/
def spread : Nat → UInt64 → List UInt32
  | 0, _ => []
  | n + 1, state => output (advance state) :: spread n (advance state)

/-- The eight words of the key of a seed. -/
def key (seed : UInt64) : List UInt32 := spread 8 seed

/-! ## From a key to blocks -/

/-- Sixteen words that are mixed together. -/
abbrev Block := Vector UInt32 16

/-- `x` rotated by `n` bits towards the high end, for `n` from 1 to 31. -/
def rotateLeft (x : UInt32) (n : UInt32) : UInt32 := (x <<< n) ||| (x >>> (32 - n))

/-- Mixes four words of a block. -/
def quarterRound (a b c d : Fin 16) (s : Block) : Block :=
  let s := s.set a (s[a] + s[b])
  let s := s.set d (rotateLeft (s[d] ^^^ s[a]) 16)
  let s := s.set c (s[c] + s[d])
  let s := s.set b (rotateLeft (s[b] ^^^ s[c]) 12)
  let s := s.set a (s[a] + s[b])
  let s := s.set d (rotateLeft (s[d] ^^^ s[a]) 8)
  let s := s.set c (s[c] + s[d])
  s.set b (rotateLeft (s[b] ^^^ s[c]) 7)

/-- A round on the columns, then one on the diagonals. -/
def doubleRound (s : Block) : Block :=
  let s := quarterRound 0 4 8 12 s
  let s := quarterRound 1 5 9 13 s
  let s := quarterRound 2 6 10 14 s
  let s := quarterRound 3 7 11 15 s
  let s := quarterRound 0 5 10 15 s
  let s := quarterRound 1 6 11 12 s
  let s := quarterRound 2 7 8 13 s
  quarterRound 3 4 9 14 s

/-- The block with number `n` before mixing: four constants, the key, the
number and an empty nonce. -/
def initialBlock (key : List UInt32) (n : Nat) : Block :=
  let k (i : Nat) := key.getD i 0
  #v[0x61707865, 0x3320646e, 0x79622d32, 0x6b206574,
    k 0, k 1, k 2, k 3, k 4, k 5, k 6, k 7,
    n.toUInt32, (n >>> 32).toUInt32, 0, 0]

/-- The block with number `n`: six double rounds, added to what they started from. -/
def block (key : List UInt32) (n : Nat) : Block :=
  let start := initialBlock key n
  let mixed := doubleRound (doubleRound (doubleRound (doubleRound (doubleRound (doubleRound start)))))
  mixed.zipWith (· + ·) start

/-- The octets of a word, the low one first. -/
def wordBytes (w : UInt32) : List UInt8 :=
  [w.toUInt8, (w >>> 8).toUInt8, (w >>> 16).toUInt8, (w >>> 24).toUInt8]

/-- The octets of a block. -/
def blockBytes (b : Block) : List UInt8 := b.toList.flatMap wordBytes

/-- The first `n` octets of the stream of a seed. -/
def bytes (seed : UInt64) (n : Nat) : List UInt8 :=
  let key := key seed
  ((List.range ((n + 63) / 64)).flatMap fun i => blockBytes (block key i)).take n

/-- `bytes` followed by `n` blocks, from block number `i` on. -/
def appendBlocks (key : List UInt32) : Nat → Nat → ByteArray → ByteArray
  | _, 0, bytes => bytes
  | i, n + 1, bytes => appendBlocks key (i + 1) n (bytes ++ ⟨(blockBytes (block key i)).toArray⟩)

/-- The first `n` octets of the stream of a seed, packed. -/
def packed (seed : UInt64) (n : Nat) : ByteArray :=
  (appendBlocks (key seed) 0 ((n + 63) / 64) (ByteArray.emptyWithCapacity (n + 63))).extract 0 n

theorem length_wordBytes (w : UInt32) : (wordBytes w).length = 4 := rfl

theorem length_blockBytes (b : Block) : (blockBytes b).length = 64 := by
  have h : (b.toList.map fun w => (wordBytes w).length).sum = 64 := by
    simp [length_wordBytes, List.map_const']
  simpa [blockBytes, List.length_flatMap] using h

/-- The stream is as long as it is asked to be. -/
@[simp] theorem length_bytes (seed : UInt64) (n : Nat) : (bytes seed n).length = n := by
  have h : ((List.range ((n + 63) / 64)).map fun i =>
      (blockBytes (block (key seed) i)).length).sum = (n + 63) / 64 * 64 := by
    simp [length_blockBytes, List.map_const']
  simp only [bytes, List.length_take, List.length_flatMap, h]
  omega

theorem toList_appendBlocks (key : List UInt32) (i n : Nat) (bytes : ByteArray) :
    (appendBlocks key i n bytes).data.toList =
      bytes.data.toList ++ (List.range' i n).flatMap fun i => blockBytes (block key i) := by
  induction n generalizing i bytes with
  | zero => simp [appendBlocks]
  | succ n ih => simp [appendBlocks, ih, ByteArray.data_append, List.range'_succ]

/-- Both forms of the stream have the same octets. -/
@[simp] theorem toList_packed (seed : UInt64) (n : Nat) :
    (packed seed n).data.toList = bytes seed n := by
  simp only [packed, bytes, ByteArray.data_extract, Array.toList_extract, toList_appendBlocks,
    Bytes.data_emptyWithCapacity, List.nil_append, List.extract_eq_take_drop, Nat.sub_zero,
    List.drop_zero, List.range_eq_range']

end CopyBench.Random
