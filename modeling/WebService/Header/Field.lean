/-!
Header fields as they are sent: names are tokens in small letters, and values hold no controls.
-/
namespace WebService.Header

def isTokenChar (c : Char) : Bool := c.isAlphanum || "!#$%&'*+-.^_\x60|~".toList.contains c

/-- One token character or more and nothing else. -/
def isToken (s : String) : Bool := !s.isEmpty && s.toList.all isTokenChar

def maxNameLength : Nat := 65535

def isName (s : String) : Bool := isToken s && s.length ≤ maxNameLength

def isValueChar (c : Char) : Bool := c = '\t' || (0x20 ≤ c.toNat && c.toNat ≠ 0x7f)

/-- Anything but controls, of which only the tab may occur. -/
def isValue (s : String) : Bool := s.toList.all isValueChar

/-- Whether a value can be read as text: visible ASCII, spaces and tabs. -/
def isPlain (s : String) : Bool :=
  s.toList.all fun c => c = '\t' || (0x20 ≤ c.toNat && c.toNat < 0x7f)

def lowered (s : String) : String := String.ofList (s.toList.map Char.toLower)

/-- Names are compared without regard to the case of ASCII letters. -/
def sameName (a b : String) : Bool := lowered a = lowered b

/-- Fields in the order in which they were added, their names in small letters. -/
abbrev Fields := List (String × String)

/-- Why a field cannot be added. -/
inductive Fault where
  | badName
  | badValue
  | tooMany
deriving DecidableEq, Repr

def Fault.message : Fault → String
  | badName => "invalid HTTP header name"
  | badValue => "failed to parse header value"
  | tooMany => "max size reached"

namespace Fields

/-- The most names that fields may have between them. -/
def capacity : Nat := 24576

def names (fields : Fields) : List String := (fields.map (·.1)).eraseDups

/-- Whether there is no room for one more field. -/
def isFull (fields : Fields) : Bool := capacity ≤ fields.length && capacity ≤ fields.names.length

/-- Adds a field behind those of its name. -/
def append (fields : Fields) (name value : String) : Except Fault Fields :=
  if !isName name then .error .badName
  else if !isValue value then .error .badValue
  else if fields.isFull then .error .tooMany
  else .ok (fields ++ [(lowered name, value)])

/-- The first value of a name. -/
def first? (fields : Fields) (name : String) : Option String := fields.lookup (lowered name)

/-- The fields ordered by name, those of one name as they were added. -/
def sorted (fields : Fields) : Fields := fields.mergeSort fun a b => a.1 ≤ b.1

end Fields

end WebService.Header
