import WebService.Text.Percent
import WebService.Text.Split

/-!
Form data: pairs of keys and values as they stand in queries.
-/
namespace WebService.Text

def plusToSpace (b : UInt8) : UInt8 := if b = 0x2b then 0x20 else b

/-- A key or a value; octets that are not UTF-8 are replaced. -/
def decodeComponent (bytes : List UInt8) : String := lossy (percentDecode (bytes.map plusToSpace))

/-- A pair is cut at its first equals sign; without one the value is empty. -/
def decodePair (bytes : List UInt8) : String × String :=
  match splitFirst? (· = 0x3d) bytes with
  | some (key, value) => (decodeComponent key, decodeComponent value)
  | none => (decodeComponent bytes, "")

/-- The pairs between ampersands, where empty parts do not count. -/
def decodeForm (s : String) : List (String × String) :=
  ((splitOn (· = 0x26) (octets s)).filter fun part => !part.isEmpty).map decodePair

end WebService.Text
