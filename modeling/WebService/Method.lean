import WebService.Header.Field
import WebService.Text.Blank
import WebService.Text.Split

/-!
Request methods and lists of them.
-/
namespace WebService

/-- A method is a token; methods that differ in case are different. -/
structure Method where
  name : String
deriving DecidableEq, Repr, Inhabited

namespace Method

def get : Method := ⟨"GET"⟩
def head : Method := ⟨"HEAD"⟩
def post : Method := ⟨"POST"⟩
def put : Method := ⟨"PUT"⟩
def patch : Method := ⟨"PATCH"⟩
def delete : Method := ⟨"DELETE"⟩
def options : Method := ⟨"OPTIONS"⟩

def ofToken? (s : String) : Option Method := if Header.isToken s then some ⟨s⟩ else none

def joined (methods : List Method) : String := ", ".intercalate (methods.map (·.name))

def isSeparator (c : Char) : Bool := Text.isBlank c || c = ','

/-- The nonempty pieces of a text between white space and commas. -/
def pieces (s : String) : List String :=
  ((Text.splitOn isSeparator s.toList).filter fun piece => !piece.isEmpty).map String.ofList

/-- The method that a piece of a list names, which may be in small letters. -/
def ofPiece? (piece : String) : Option Method :=
  ofToken? (String.ofList (piece.toList.map Char.toUpper))

/-- A list of methods; the text that names none is reported: the first faulty piece, or all of it
if it has no piece. -/
def parseList (s : String) : Except String (List Method) :=
  match pieces s with
  | [] => .error s
  | parts => parts.mapM fun piece =>
    match ofPiece? piece with
    | some m => .ok m
    | none => .error piece

end Method

end WebService
