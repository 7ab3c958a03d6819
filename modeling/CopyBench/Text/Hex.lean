/-!
# Hexadecimal text

Lower-case digits, without padding for numbers and with two digits for octets.
-/

namespace CopyBench.Hex

/-- The digits of `n`, most significant first; zero is one digit. -/
def digits (n : Nat) : String := String.ofList (Nat.toDigits 16 n)

/-- `n` as `0x` and its digits. -/
def literal (n : Nat) : String := "0x" ++ digits n

/-- The digits of `n`, padded with zeros to `width`. -/
def padded (width n : Nat) : String :=
  let text := digits n
  String.ofList (List.replicate (width - text.length) '0') ++ text

/-- Two digits for each octet. -/
def octets (bytes : List UInt8) : String :=
  bytes.foldl (fun text b => text ++ padded 2 b.toNat) ""

end CopyBench.Hex
