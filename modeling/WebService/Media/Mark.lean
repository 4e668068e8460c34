/-!
Marks in data: octets that stand at fixed places, by which a format is known.
-/
namespace WebService.Media

/-- The octets of a text of ASCII characters. -/
def ascii (s : String) : List UInt8 := s.toList.map fun c => UInt8.ofNat c.toNat

/-- Octets at a place counted from the start. -/
structure Mark where
  offset : Nat
  octets : List UInt8
deriving DecidableEq, Repr

def Mark.stands (m : Mark) (data : List UInt8) : Bool := m.octets.isPrefixOf (data.drop m.offset)

def Mark.text (offset : Nat) (s : String) : Mark := ⟨offset, ascii s⟩

/-- The least size of the data, and marks that all have to stand in it. -/
structure Pattern where
  size : Nat
  marks : List Mark
deriving DecidableEq, Repr

namespace Pattern

def fits (p : Pattern) (data : List UInt8) : Bool :=
  p.size ≤ data.length && p.marks.all fun m => m.stands data

/-- Octets at the start, in data of at least the given size. -/
def lead (size : Nat) (octets : List UInt8) : Pattern := ⟨size, [⟨0, octets⟩]⟩

/-- A word at the start, in data of at least the given size. -/
def word (size : Nat) (s : String) : Pattern := lead size (ascii s)

end Pattern

/-- The number that octets stand for, the most significant first. -/
def bigEndianValue (octets : List UInt8) : Nat := octets.foldl (fun n b => 256 * n + b.toNat) 0

/-- The number that octets stand for, the least significant first. -/
def littleEndianValue (octets : List UInt8) : Nat := bigEndianValue octets.reverse

end WebService.Media
