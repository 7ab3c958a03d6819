import CopyBench.Text.Hex
import CopyBench.Text.Printable
/-!
# Quoted text

Text in double quotes on one line, with escapes for what a reader could not
see. There are two forms: of a string of characters, and of a string of octets
that need not be well-formed UTF-8.
-/

namespace CopyBench.Text

/-- A character inside quotes: the short escapes, `\\u\x7b…\x7d` for what is not
printed as itself, and all else as it is. -/
def quotedChar (c : Char) : String :=
  if c = '"' then "\\\""
  else if c = '\\' then "\\\\"
  else if c = '\n' then "\\n"
  else if c = '\r' then "\\r"
  else if c = '\t' then "\\t"
  else if c = '\x00' then "\\0"
  else if isPrintable c then String.singleton c
  else "\\u\x7b" ++ Hex.digits c.toNat ++ "\x7d"

/-- A string of characters in quotes. -/
def quoted (text : String) : String :=
  "\"" ++ text.foldl (fun out c => out ++ quotedChar c) "" ++ "\""

/-- A part of a string of octets: a character, or an octet that is part of none. -/
inductive Utf8Part where
  | char (c : Char)
  /-- A longest run of octets that starts like a character and is none. -/
  | broken (octets : List UInt8)
deriving DecidableEq, Repr

/-- Whether an octet continues a character. -/
def isTail (b : UInt8) : Bool := 0x80 ≤ b && b ≤ 0xBF

/-- The low six bits of a continuing octet, below the bits read so far. -/
def withTail (bits : Nat) (b : UInt8) : Nat := bits * 64 + (b.toNat - 0x80)

/-- The range of the second octet after a first one, and the number of octets
after the first; nothing starts with the other octets. -/
def leadRule (b : UInt8) : Option (UInt8 × UInt8 × Nat) :=
  if 0xC2 ≤ b && b ≤ 0xDF then some (0x80, 0xBF, 1)
  else if b = 0xE0 then some (0xA0, 0xBF, 2)
  else if b = 0xED then some (0x80, 0x9F, 2)
  else if 0xE1 ≤ b && b ≤ 0xEF then some (0x80, 0xBF, 2)
  else if b = 0xF0 then some (0x90, 0xBF, 3)
  else if 0xF1 ≤ b && b ≤ 0xF3 then some (0x80, 0xBF, 3)
  else if b = 0xF4 then some (0x80, 0x8F, 3)
  else none

/-- The bits that a first octet gives to its character. -/
def leadBits (b : UInt8) : Nat :=
  if b ≤ 0xDF then b.toNat - 0xC0 else if b ≤ 0xEF then b.toNat - 0xE0 else b.toNat - 0xF0

/-- Takes up to `n` continuing octets, and says how many were missing. -/
def takeTails : Nat → List UInt8 → List UInt8 × Nat
  | 0, _ => ([], 0)
  | n + 1, [] => ([], n + 1)
  | n + 1, b :: rest =>
    if isTail b then
      let (taken, missing) := takeTails n rest
      (b :: taken, missing)
    else ([], n + 1)

/-- The part at the start of `b :: rest`. -/
def firstPart (b : UInt8) (rest : List UInt8) : Utf8Part :=
  if b < 0x80 then .char (Char.ofNat b.toNat)
  else match leadRule b, rest with
    | some (low, high, n), second :: more =>
      if low ≤ second && second ≤ high then
        let (tails, missing) := takeTails (n - 1) more
        if missing = 0 then
          .char (Char.ofNat ((second :: tails).foldl withTail (leadBits b)))
        else .broken (b :: second :: tails)
      else .broken [b]
    | _, _ => .broken [b]

/-- The number of octets of a part. -/
def Utf8Part.size : Utf8Part → Nat
  | .char c => c.utf8Size
  | .broken octets => octets.length

/-- Splits octets into characters and broken runs, with a bound on their number. -/
def utf8PartsWithin : Nat → List UInt8 → List Utf8Part
  | 0, _ => []
  | _ + 1, [] => []
  | fuel + 1, b :: rest =>
    let part := firstPart b rest
    part :: utf8PartsWithin fuel ((b :: rest).drop part.size)

/-- Splits octets into characters and broken runs. -/
def utf8Parts (octets : List UInt8) : List Utf8Part := utf8PartsWithin octets.length octets

/-- Octets as text, with one replacement character for each broken run. -/
def lossy (octets : List UInt8) : String :=
  (utf8Parts octets).foldl (fun out part => match part with
    | .char c => out.push c
    | .broken _ => out.push '\uFFFD') ""

/-- An octet inside quotes. -/
def quotedOctet (b : UInt8) : String :=
  if b = 0x09 then "\\t"
  else if b = 0x0A then "\\n"
  else if b = 0x0D then "\\r"
  else if b = 0x22 then "\\\""
  else if b = 0x27 then "\\'"
  else if b = 0x5C then "\\\\"
  else if 0x20 ≤ b && b < 0x7F then String.singleton (Char.ofNat b.toNat)
  else "\\x" ++ Hex.padded 2 b.toNat

/-- A part of a string of octets inside quotes. -/
def quotedPart : Utf8Part → String
  | .char c => if c.toNat < 0x80 then quotedOctet c.toNat.toUInt8 else quotedChar c
  | .broken octets => octets.foldl (fun out b => out ++ quotedOctet b) ""

/-- A string of octets in quotes. -/
def quotedOctets (octets : List UInt8) : String :=
  "\"" ++ (utf8Parts octets).foldl (fun out part => out ++ quotedPart part) "" ++ "\""

end CopyBench.Text
