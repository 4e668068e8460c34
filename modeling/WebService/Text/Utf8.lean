/-!
Reading UTF-8: strictly, or with a replacement character for each faulty sequence.
-/
namespace WebService.Text

def octetCount (cs : List Char) : Nat := cs.foldl (fun n c => n + c.utf8Size) 0

/-- The octets of a text. -/
def octets (s : String) : List UInt8 := s.toUTF8.data.toList

/-- The text that octets encode, if they are UTF-8. -/
def ofOctets? (bytes : List UInt8) : Option String := String.fromUTF8? ⟨bytes.toArray⟩

/-- How many octets follow a first one, and between which bounds the second must lie. -/
def sequenceAfter (first : UInt8) : Option (Nat × UInt8 × UInt8) :=
  if 0xc2 ≤ first && first ≤ 0xdf then some (1, 0x80, 0xbf)
  else if first = 0xe0 then some (2, 0xa0, 0xbf)
  else if first = 0xed then some (2, 0x80, 0x9f)
  else if 0xe1 ≤ first && first ≤ 0xef then some (2, 0x80, 0xbf)
  else if first = 0xf0 then some (3, 0x90, 0xbf)
  else if 0xf1 ≤ first && first ≤ 0xf3 then some (3, 0x80, 0xbf)
  else if first = 0xf4 then some (3, 0x80, 0x8f)
  else none

def replacement : Char := '\ufffd'

/-- Characters so far, while `owed` octets of the one with code `code` are still to come and the
next must lie between `low` and `high`. A faulty octet ends the character and starts anew. -/
def lossyFrom (owed : Nat) (code : Nat) (low high : UInt8) : List UInt8 → List Char
  | [] => if owed = 0 then [] else [replacement]
  | b :: bs =>
    if owed ≠ 0 && low ≤ b && b ≤ high then
      let code := code * 64 + b.toNat % 64
      if owed = 1 then Char.ofNat code :: lossyFrom 0 0 0 0 bs
      else lossyFrom (owed - 1) code 0x80 0xbf bs
    else
      let before := if owed = 0 then [] else [replacement]
      if b < 0x80 then before ++ Char.ofNat b.toNat :: lossyFrom 0 0 0 0 bs
      else match sequenceAfter b with
        | some (more, low, high) =>
          before ++ lossyFrom more (b.toNat % Nat.pow 2 (6 - more)) low high bs
        | none => before ++ replacement :: lossyFrom 0 0 0 0 bs

/-- The text that octets stand for, each faulty sequence read as one replacement character. -/
def lossy (bytes : List UInt8) : String := String.ofList (lossyFrom 0 0 0 0 bytes)

end WebService.Text
