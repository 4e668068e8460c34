import WebService.Json.Value
import WebService.Number.Reading
import WebService.Text.Utf8

/-!
Reading JSON text. A fault names its cause and the place where it shows, counted in octets.
-/
namespace WebService.Json

open Text (octetCount)

/-- Why a text is not JSON. -/
inductive Cause where
  | endOfList | endOfObject | endOfString | endOfValue
  | expectedColon | expectedListEnd | expectedObjectEnd | expectedWord | expectedValue
  | invalidEscape | invalidNumber | numberOutOfRange
  | controlCharacter | keyNotText | loneSurrogate | brokenPair
  | trailingComma | trailingText | tooDeep
deriving DecidableEq, Repr

def Cause.message : Cause → String
  | endOfList => "EOF while parsing a list"
  | endOfObject => "EOF while parsing an object"
  | endOfString => "EOF while parsing a string"
  | endOfValue => "EOF while parsing a value"
  | expectedColon => "expected \x60:\x60"
  | expectedListEnd => "expected \x60,\x60 or \x60]\x60"
  | expectedObjectEnd => "expected \x60,\x60 or \x60\x7d\x60"
  | expectedWord => "expected ident"
  | expectedValue => "expected value"
  | invalidEscape => "invalid escape"
  | invalidNumber => "invalid number"
  | numberOutOfRange => "number out of range"
  | controlCharacter => "control character (\\u0000-\\u001F) found while parsing a string"
  | keyNotText => "key must be a string"
  | loneSurrogate => "lone leading surrogate in hex escape"
  | brokenPair => "unexpected end of hex escape"
  | trailingComma => "trailing comma"
  | trailingText => "trailing characters"
  | tooDeep => "recursion limit exceeded"

/-- A cause, and how many octets of the text stand after the place of the fault. -/
structure Fault where
  cause : Cause
  left : Nat
deriving DecidableEq, Repr

/-- A fault right before `rest`. -/
def faultAt (cause : Cause) (rest : List Char) : Fault := ⟨cause, octetCount rest⟩

/-- A fault at the first octet of `rest`. -/
def faultIn (cause : Cause) (rest : List Char) : Fault := ⟨cause, octetCount rest - 1⟩

def isSpace (c : Char) : Bool := c = ' ' || c = '\n' || c = '\t' || c = '\r'

def skipSpace (cs : List Char) : List Char := cs.dropWhile isSpace

/-! Numbers -/

/-- Digits taken into a significand as long as it stays below `2 ^ 64`, and those left. -/
def takeDigits (significand : Nat) : List Char → Nat × List Char
  | [] => (significand, [])
  | c :: cs =>
    if c.isDigit then
      let next := 10 * significand + Number.digitValue c
      if next ≤ Number.maxUInt64 then takeDigits next cs else (significand, c :: cs)
    else (significand, c :: cs)

/-- A significand scaled by one multiplication or division by a power of ten; very small numbers
need two or three divisions, which `fuel` bounds. -/
def scaleTen : Nat → Number.Binary → Int → Option Number.Binary
  | 0, x, _ => some x
  | fuel + 1, x, exponent =>
    let f := Number.double
    if exponent.natAbs ≤ 308 then
      let power := f.ofDecimal false 1 exponent.natAbs
      if 0 ≤ exponent then
        let y := x.scale f power
        if y.isFinite then some y else none
      else some (x.unscale f power)
    else if x.isZero then some x
    else if 0 ≤ exponent then none
    else scaleTen fuel (x.unscale f (f.ofDecimal false 1 308)) (exponent + 308)

def realNumber (negative : Bool) (significand : Nat) (exponent : Int) (rest : List Char) :
    Except Fault (Number × List Char) :=
  match scaleTen 8 (Number.double.ofInt significand) exponent with
  | some x => .ok (.real (if negative then x.neg else x), rest)
  | none => .error (faultAt .numberOutOfRange rest)

def exponentLimit : Nat := 2147483648

/-- Exponents are kept below the limit; the digit that passes it is the last one taken. -/
def takeExponent (exponent : Nat) : List Char → Nat × List Char
  | [] => (exponent, [])
  | c :: cs =>
    if c.isDigit then
      let next := 10 * exponent + Number.digitValue c
      if next < exponentLimit then takeExponent next cs else (next, cs)
    else (exponent, c :: cs)

def clampExponent (exponent : Int) : Int := max (-exponentLimit) (min exponent (exponentLimit - 1))

/-- The part of a number after its exponent mark. -/
def readExponent (negative : Bool) (significand : Nat) (start : Int) (cs : List Char) :
    Except Fault (Number × List Char) :=
  let (down, ds) : Bool × List Char := match cs with
    | '+' :: rest => (false, rest)
    | '-' :: rest => (true, rest)
    | _ => (false, cs)
  match ds with
  | [] => .error (faultAt .endOfValue [])
  | c :: rest =>
    if c.isDigit then
      let (exponent, rest) := takeExponent (Number.digitValue c) rest
      if exponent < exponentLimit then
        let exponent : Int := if down then start - exponent else start + exponent
        realNumber negative significand (clampExponent exponent) rest
      else if significand ≠ 0 && !down then .error (faultAt .numberOutOfRange rest)
      else .ok (.real (Number.double.zero negative), rest.dropWhile Char.isDigit)
    else .error (faultIn .invalidNumber ds)

/-- The part of a number after its digits or its fraction. -/
def readScale (negative : Bool) (significand : Nat) (exponent : Int) (cs : List Char) :
    Except Fault (Number × List Char) :=
  match cs with
  | 'e' :: rest | 'E' :: rest => readExponent negative significand exponent rest
  | _ => realNumber negative significand exponent cs

/-- The part of a number after its point. -/
def readFraction (negative : Bool) (significand : Nat) (exponent : Int) (cs : List Char) :
    Except Fault (Number × List Char) :=
  let (taken, rest) := takeDigits significand cs
  let places := cs.length - rest.length
  let after := rest.dropWhile Char.isDigit
  if places = 0 && after.length = rest.length then
    .error (faultIn (if rest.isEmpty then .endOfValue else .invalidNumber) rest)
  else readScale negative taken (exponent - places) after

/-- A whole number unless a point or an exponent mark follows. -/
def readTail (negative : Bool) (significand : Nat) (cs : List Char) :
    Except Fault (Number × List Char) :=
  match cs with
  | '.' :: rest => readFraction negative significand 0 rest
  | 'e' :: rest | 'E' :: rest => readExponent negative significand 0 rest
  | _ =>
    if !negative then .ok (.whole significand, cs)
    else if significand = 0 || 9223372036854775808 < significand then
      .ok (.real (Number.double.ofInt significand).neg, cs)
    else .ok (.whole (-(significand : Int)), cs)

/-- Digits past those that a significand can hold only raise the exponent. -/
def readLong (negative : Bool) (significand : Nat) (cs : List Char) :
    Except Fault (Number × List Char) :=
  let rest := cs.dropWhile Char.isDigit
  let exponent : Nat := cs.length - rest.length
  match rest with
  | '.' :: more => readFraction negative significand exponent more
  | _ => readScale negative significand exponent rest

/-- A number without its sign. -/
def readNumber (negative : Bool) (cs : List Char) : Except Fault (Number × List Char) :=
  match cs with
  | [] => .error (faultAt .endOfValue [])
  | c :: rest =>
    if c = '0' then
      if (rest.head?.map Char.isDigit).getD false then .error (faultIn .invalidNumber rest)
      else readTail negative 0 rest
    else if c.isDigit then
      let (significand, rest) := takeDigits (Number.digitValue c) rest
      if (rest.head?.map Char.isDigit).getD false then readLong negative significand rest
      else readTail negative significand rest
    else .error (faultIn .invalidNumber cs)

/-! Texts -/

def hexValue? (c : Char) : Option Nat :=
  if c.isDigit then some (c.toNat - 0x30)
  else if 'A' ≤ c && c ≤ 'F' then some (c.toNat - 0x37)
  else if 'a' ≤ c && c ≤ 'f' then some (c.toNat - 0x57)
  else none

/-- The value of four hexadecimal digits. -/
def readHex (cs : List Char) : Except Fault (Nat × List Char) :=
  let failed : Except Fault (Nat × List Char) :=
    if octetCount cs < 4 then .error (faultAt .endOfString [])
    else .error ⟨.invalidEscape, octetCount cs - 4⟩
  match cs with
  | a :: b :: c :: d :: rest =>
    match hexValue? a, hexValue? b, hexValue? c, hexValue? d with
    | some a, some b, some c, some d => .ok (((16 * a + b) * 16 + c) * 16 + d, rest)
    | _, _, _, _ => failed
  | _ => failed

def isHighSurrogate (n : Nat) : Bool := 0xd800 ≤ n && n ≤ 0xdbff

def isLowSurrogate (n : Nat) : Bool := 0xdc00 ≤ n && n ≤ 0xdfff

/-- The second half of a character written as two escapes. -/
def readLowSurrogate (high : Nat) (cs : List Char) : Except Fault (Char × List Char) :=
  match cs with
  | [] => .error (faultAt .endOfString [])
  | '\\' :: rest =>
    match rest with
    | [] => .error (faultAt .endOfString [])
    | 'u' :: digits => do
      let (low, rest) ← readHex digits
      if isLowSurrogate low then
        return (Char.ofNat (0x10000 + (high - 0xd800) * 0x400 + (low - 0xdc00)), rest)
      else .error (faultAt .loneSurrogate rest)
    | _ => .error (faultIn .brokenPair rest)
  | _ => .error (faultIn .brokenPair cs)

/-- The character that stands after a backslash. -/
def readEscape (cs : List Char) : Except Fault (Char × List Char) :=
  match cs with
  | [] => .error (faultAt .endOfString [])
  | c :: rest =>
    if c = '"' || c = '\\' || c = '/' then .ok (c, rest)
    else if c = 'b' then .ok ('\x08', rest)
    else if c = 'f' then .ok ('\x0c', rest)
    else if c = 'n' then .ok ('\n', rest)
    else if c = 'r' then .ok ('\r', rest)
    else if c = 't' then .ok ('\t', rest)
    else if c = 'u' then do
      let (n, rest) ← readHex rest
      if isLowSurrogate n then .error (faultAt .loneSurrogate rest)
      else if isHighSurrogate n then readLowSurrogate n rest
      else return (Char.ofNat n, rest)
    else .error (faultIn .invalidEscape cs)

/-- The characters up to the closing quote. Each step takes one character or more of the text, so
its length is enough `fuel`. -/
def readChars : Nat → List Char → Except Fault (List Char × List Char)
  | 0, cs => .error (faultAt .endOfString cs)
  | fuel + 1, cs =>
    match cs with
    | [] => .error (faultAt .endOfString [])
    | '"' :: rest => .ok ([], rest)
    | '\\' :: rest => do
      let (c, rest) ← readEscape rest
      let (more, rest) ← readChars fuel rest
      return (c :: more, rest)
    | c :: rest =>
      if c.toNat < 0x20 then .error (faultAt .controlCharacter rest)
      else do
        let (more, rest) ← readChars fuel rest
        return (c :: more, rest)

/-- A text after its opening quote. -/
def readText (cs : List Char) : Except Fault (String × List Char) := do
  let (chars, rest) ← readChars (cs.length + 1) cs
  return (String.ofList chars, rest)

/-! Values -/

/-- The rest of one of the words `null`, `true` and `false`. -/
def readWord : List Char → List Char → Except Fault (List Char)
  | [], cs => .ok cs
  | _ :: _, [] => .error (faultAt .endOfValue [])
  | expected :: word, c :: cs =>
    if c = expected then readWord word cs else .error (faultIn .expectedWord (c :: cs))

/-- Lists and objects may nest one level less than this. -/
def depthLimit : Nat := 128

mutual

/-- A value and the rest of the text; `depth` levels may still be opened, less one. -/
def readValue : Nat → Nat → List Char → Except Fault (Value × List Char)
  | 0, _, cs => .error (faultAt .tooDeep cs)
  | fuel + 1, depth, cs =>
    match skipSpace cs with
    | [] => .error (faultAt .endOfValue [])
    | c :: rest =>
      if c = 'n' then do return (.null, ← readWord "ull".toList rest)
      else if c = 't' then do return (.boolean true, ← readWord "rue".toList rest)
      else if c = 'f' then do return (.boolean false, ← readWord "alse".toList rest)
      else if c = '-' then do
        let (n, rest) ← readNumber true rest
        return (.number n, rest)
      else if c.isDigit then do
        let (n, rest) ← readNumber false (c :: rest)
        return (.number n, rest)
      else if c = '"' then do
        let (s, rest) ← readText rest
        return (.text s, rest)
      else if c = '[' then
        if depth ≤ 1 then .error (faultIn .tooDeep (c :: rest))
        else do
          let (items, rest) ← readItems fuel (depth - 1) true rest
          return (.list items, rest)
      else if c = '\x7b' then
        if depth ≤ 1 then .error (faultIn .tooDeep (c :: rest))
        else do
          let (members, rest) ← readMembers fuel (depth - 1) true rest
          return (.object members, rest)
      else .error (faultIn .expectedValue (c :: rest))

/-- The items up to the closing bracket. -/
def readItems : Nat → Nat → Bool → List Char → Except Fault (List Value × List Char)
  | 0, _, _, cs => .error (faultAt .tooDeep cs)
  | fuel + 1, depth, first, cs =>
    match skipSpace cs with
    | [] => .error (faultAt .endOfList [])
    | ']' :: rest => .ok ([], rest)
    | c :: rest =>
      if first then do
        let (item, rest) ← readValue fuel depth (c :: rest)
        let (items, rest) ← readItems fuel depth false rest
        return (item :: items, rest)
      else if c = ',' then
        match skipSpace rest with
        | [] => .error (faultAt .endOfValue [])
        | ']' :: more => .error (faultIn .trailingComma (']' :: more))
        | more => do
          let (item, rest) ← readValue fuel depth more
          let (items, rest) ← readItems fuel depth false rest
          return (item :: items, rest)
      else .error (faultIn .expectedListEnd (c :: rest))

/-- The members up to the closing brace. -/
def readMembers : Nat → Nat → Bool → List Char → Except Fault (List (String × Value) × List Char)
  | 0, _, _, cs => .error (faultAt .tooDeep cs)
  | fuel + 1, depth, first, cs =>
    match skipSpace cs with
    | [] => .error (faultAt .endOfObject [])
    | '\x7d' :: rest => .ok ([], rest)
    | c :: rest =>
      if first then
        if c = '"' then readMember fuel depth rest
        else .error (faultIn .keyNotText (c :: rest))
      else if c = ',' then
        match skipSpace rest with
        | [] => .error (faultAt .endOfValue [])
        | '"' :: more => readMember fuel depth more
        | '\x7d' :: more => .error (faultIn .trailingComma ('\x7d' :: more))
        | more => .error (faultIn .keyNotText more)
      else .error (faultIn .expectedObjectEnd (c :: rest))

/-- A member after the opening quote of its key, and those that follow it. -/
def readMember : Nat → Nat → List Char → Except Fault (List (String × Value) × List Char)
  | 0, _, cs => .error (faultAt .tooDeep cs)
  | fuel + 1, depth, cs => do
    let (key, rest) ← readText cs
    match skipSpace rest with
    | [] => .error (faultAt .endOfObject [])
    | ':' :: rest =>
      let (value, rest) ← readValue fuel depth rest
      let (members, rest) ← readMembers fuel depth false rest
      return ((key, value) :: members, rest)
    | other => .error (faultIn .expectedColon other)

end

/-- The value at the start of a text and what follows it. -/
def readLeading (cs : List Char) : Except Fault (Value × List Char) :=
  readValue (3 * cs.length + 3) depthLimit cs

/-- Refuses anything but white space. -/
def readEnd (cs : List Char) : Except Fault Unit :=
  match skipSpace cs with
  | [] => .ok ()
  | rest => .error (faultIn .trailingText rest)

/-- The value that a text is, members as they stand. -/
def readDocument (s : String) : Except Fault Value := do
  let (value, rest) ← readLeading s.toList
  readEnd rest
  return value

/-- The value that a text is, with every object in key order. -/
def Value.parse (s : String) : Except Fault Value := do return (← readDocument s).sorted

/-- Line and column of a fault, the column counted in octets. -/
def Fault.place (fault : Fault) (s : String) : Nat × Nat :=
  let before := s.toUTF8.data.toList.take (s.utf8ByteSize - fault.left)
  let line := before.reverse.takeWhile (· ≠ 10)
  (1 + before.count 10, line.length)

/-- The cause and the place of a fault in words. -/
def Fault.message (fault : Fault) (s : String) : String :=
  let (line, column) := fault.place s
  fault.cause.message ++ " at line " ++ toString line ++ " column " ++ toString column

end WebService.Json
