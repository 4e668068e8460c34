import WebService.Request.Basic
import WebService.Text.Blank

/-!
What a client asks for in header fields: media types and languages by quality, and a range of
octets.
-/
namespace WebService.Request

/-! Qualities -/

/-- The quality that the first parameter to give one has. -/
def qualityOf (parameters : List (List Char)) : Number.Binary :=
  let given := parameters.findSome? fun p => do
    Number.readBinary Number.single (← Text.after? ['q', '='] (Text.trim p))
  given.getD (Number.single.ofInt 1)

/-- An item of a list with its quality, unless nothing stands before its parameters. -/
def qualityItem? (item : List Char) : Option (String × Number.Binary) :=
  match Text.splitOn (· = ';') item with
  | [] => none
  | value :: parameters =>
    let value := Text.trim value
    if value.isEmpty then none else some (String.ofList value, qualityOf parameters)

/-- The items of a field in their order. -/
def qualityItems (field : String) : List (String × Number.Binary) :=
  (Text.splitOn (· = ',') field.toList).filterMap qualityItem?

/-- Whether an item comes before or with another: by falling quality. -/
def ranksBefore (a b : String × Number.Binary) : Bool :=
  b.2.rank Number.single ≤ a.2.rank Number.single

/-- The items of a field by falling quality, equal ones in their order. -/
def qualityList (field : String) : List (String × Number.Binary) :=
  (qualityItems field).mergeSort ranksBefore

def accept (r : Request) : List (String × Number.Binary) :=
  ((r.header? "accept").map qualityList).getD []

def languages (r : Request) : List (String × Number.Binary) :=
  ((r.header? "accept-language").map qualityList).getD []

/-! Ranges -/

/-- The first range of a field: its start, and its end where one is given. What is not a number
counts as zero at the start and as nothing at the end. -/
def firstRange (field : List Char) : Nat × Option Nat :=
  let ranges := (Text.after? "bytes=".toList (Text.trim field)).getD field
  match Text.splitFirst? (· = '-') (ranges.takeWhile (· ≠ ',')) with
  | none => (0, none)
  | some (start, stop) =>
    ((Number.readUInt64 (Text.trim start)).getD 0, Number.readUInt64 (Text.trim stop))

/-- The range of octets asked for. -/
def range (r : Request) : Nat × Option Nat :=
  match r.header? "range" with
  | some field => firstRange field.toList
  | none => (0, none)

end WebService.Request
