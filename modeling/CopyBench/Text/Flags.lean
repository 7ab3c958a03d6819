import CopyBench.Text.Hex
/-!
# Flag words as text

A word of flags is written as the names of its set bits, in the order of a name
table, joined by ` | `. Bits without a name come last, together, as one binary
number. The empty word is the empty text.
-/

namespace CopyBench.Flags

/-- The names of the bits of one kind of flag word, in the order they are written. -/
abbrev Names := List (UInt32 × String)

/-- Whether every bit of `required` is set in `word`. -/
def includes (word required : UInt32) : Bool := word &&& required == required

/-- Whether some bit of `candidates` is set in `word`. -/
def meets (word candidates : UInt32) : Bool := word &&& candidates != 0

/-- The bits of `word` that `names` does not name. -/
def unnamed (names : Names) (word : UInt32) : UInt32 :=
  names.foldl (fun rest entry => rest &&& ~~~entry.1) word

/-- The parts of the text of `word`: names first, then the unnamed bits. -/
def parts (names : Names) (word : UInt32) : List String :=
  let known := (names.filter fun entry => includes word entry.1).map (·.2)
  let rest := unnamed names word
  if rest = 0 then known else known ++ [String.ofList (Nat.toDigits 2 rest.toNat)]

/-- The text of `word`. -/
def describe (names : Names) (word : UInt32) : String :=
  " | ".intercalate (parts names word)

/-- Memory property bits. -/
def memoryProperties : Names :=
  [(1, "DEVICE_LOCAL"), (2, "HOST_VISIBLE"), (4, "HOST_COHERENT"), (8, "HOST_CACHED"),
   (16, "LAZILY_ALLOCATED"), (64, "DEVICE_COHERENT_AMD"), (128, "DEVICE_UNCACHED_AMD"),
   (256, "RDMA_CAPABLE_NV"), (32, "PROTECTED")]

/-- Buffer usage bits. -/
def bufferUsage : Names :=
  [(1, "TRANSFER_SRC"), (2, "TRANSFER_DST"), (4, "UNIFORM_TEXEL_BUFFER"),
   (8, "STORAGE_TEXEL_BUFFER"), (16, "UNIFORM_BUFFER"), (32, "STORAGE_BUFFER"),
   (64, "INDEX_BUFFER"), (128, "VERTEX_BUFFER"), (256, "INDIRECT_BUFFER")]

/-- Debug message type bits. -/
def messageTypes : Names :=
  [(1, "GENERAL"), (2, "VALIDATION"), (4, "PERFORMANCE"), (8, "DEVICE_ADDRESS_BINDING")]

/-- The level of a command buffer: primary, secondary, or a bare number. -/
def commandBufferLevel (level : Int) : String :=
  match level with
  | 0 => "PRIMARY"
  | 1 => "SECONDARY"
  | other => toString other

end CopyBench.Flags
