import WebService.Text.Utf8

/-!
Percent-encoded octets, and the encoding of form data built on them.
-/
namespace WebService.Text

def hexValue? (b : UInt8) : Option Nat :=
  if 0x30 ≤ b && b ≤ 0x39 then some (b.toNat - 0x30)
  else if 0x41 ≤ b && b ≤ 0x46 then some (b.toNat - 0x37)
  else if 0x61 ≤ b && b ≤ 0x66 then some (b.toNat - 0x57)
  else none

/-- A percent sign with two hexadecimal digits is one octet; any other stands for itself. -/
def percentDecode : List UInt8 → List UInt8
  | 0x25 :: a :: b :: rest =>
    match hexValue? a, hexValue? b with
    | some high, some low => UInt8.ofNat (16 * high + low) :: percentDecode rest
    | _, _ => 0x25 :: percentDecode (a :: b :: rest)
  | b :: rest => b :: percentDecode rest
  | [] => []

/-- The text that a percent-encoded one stands for, if that is UTF-8. -/
def percentDecodeText? (s : String) : Option String := ofOctets? (percentDecode (octets s))

def hexDigit (n : Nat) : UInt8 := UInt8.ofNat (if n < 10 then 0x30 + n else 0x37 + n)

/-- Octets for which `reserved` holds are written as a percent sign and two digits. -/
def percentEncode (reserved : UInt8 → Bool) (bytes : List UInt8) : List UInt8 :=
  bytes.flatMap fun b =>
    if reserved b then [0x25, hexDigit (b.toNat / 16), hexDigit (b.toNat % 16)] else [b]

end WebService.Text
