import WebService.Number.Layout
import WebService.Number.Reading

/-!
Internet addresses with a port, read from text and written in their canonical form.
-/
namespace WebService.Network

open Number (digitsOf)

/-- An address of four octets, or one of eight groups of sixteen bits. -/
inductive Host where
  | four (octets : List Nat)
  | six (groups : List Nat)
deriving DecidableEq, Repr, Inhabited

/-- The scope is zero but for link-local addresses of one network among several. -/
structure Address where
  host : Host
  scope : Nat
  port : Nat
deriving DecidableEq, Repr, Inhabited

/-! Writing -/

/-- Where the first of the longest runs of zeros starts, and how long it is. -/
def longestZeros : List Nat → Nat × Nat
  | [] => (0, 0)
  | g :: groups =>
    let here := ((g :: groups).takeWhile (· = 0)).length
    let (start, length) := longestZeros groups
    if length ≤ here then (0, here) else (start + 1, length)

def writeGroups (groups : List Nat) : String :=
  ":".intercalate (groups.map fun g => String.ofList (Nat.toDigits 16 g))

def writeOctets (octets : List Nat) : String :=
  ".".intercalate (octets.map fun n => String.ofList (digitsOf n))

/-- Two groups as the octets they hold. -/
def groupOctets (groups : List Nat) : List Nat := groups.flatMap fun g => [g / 256, g % 256]

/-- The host; a run of two zero groups or more is left out, and a mapped address keeps its dots. -/
def Host.text : Host → String
  | .four octets => writeOctets octets
  | .six groups =>
    if groups.take 6 = [0, 0, 0, 0, 0, 0xffff] then
      "::ffff:" ++ writeOctets (groupOctets (groups.drop 6))
    else
      let (start, length) := longestZeros groups
      if length < 2 then writeGroups groups
      else writeGroups (groups.take start) ++ "::" ++ writeGroups (groups.drop (start + length))

def Address.text (a : Address) : String :=
  match a.host with
  | .four _ => a.host.text ++ ":" ++ toString a.port
  | .six _ =>
    let scope := if a.scope = 0 then "" else "%" ++ toString a.scope
    "[" ++ a.host.text ++ scope ++ "]:" ++ toString a.port

/-! Reading -/

def hexValue? (c : Char) : Option Nat :=
  if c.isDigit then some (c.toNat - 0x30)
  else if 'A' ≤ c && c ≤ 'F' then some (c.toNat - 0x37)
  else if 'a' ≤ c && c ≤ 'f' then some (c.toNat - 0x57)
  else none

def expect (c : Char) : List Char → Option (List Char)
  | [] => none
  | d :: rest => if d = c then some rest else none

/-- A decimal number up to a limit. -/
def scanNumber (limit : Nat) (cs : List Char) : Option (Nat × List Char) :=
  let ds := cs.takeWhile Char.isDigit
  let n := Number.natOfDigits ds
  if ds.isEmpty || limit < n then none else some (n, cs.drop ds.length)

/-- An octet without leading zeros. -/
def scanOctet (cs : List Char) : Option (Nat × List Char) := do
  let (n, rest) ← scanNumber 255 cs
  if (digitsOf n).length = cs.length - rest.length then some (n, rest) else none

def scanOctets (cs : List Char) : Option (List Nat × List Char) := do
  let (a, cs) ← scanOctet cs
  let (b, cs) ← scanOctet (← expect '.' cs)
  let (c, cs) ← scanOctet (← expect '.' cs)
  let (d, cs) ← scanOctet (← expect '.' cs)
  return ([a, b, c, d], cs)

/-- One to four hexadecimal digits. -/
def scanGroup (cs : List Char) : Option (Nat × List Char) :=
  let ds := cs.takeWhile fun c => (hexValue? c).isSome
  if ds.isEmpty || 4 < ds.length then none
  else some (ds.foldl (fun n c => 16 * n + (hexValue? c).getD 0) 0, cs.drop ds.length)

/-- Up to `limit` groups, colons between them; the last two may stand as four octets, which the
flag tells. -/
def scanGroups (first : Bool) : Nat → List Char → List Nat × Bool × List Char
  | 0, cs => ([], false, cs)
  | limit + 1, cs =>
    let next := if first then some cs else expect ':' cs
    match if limit = 0 then none else next.bind scanOctets with
    | some (octets, rest) =>
      match octets with
      | [a, b, c, d] => ([256 * a + b, 256 * c + d], true, rest)
      | _ => ([], false, cs)
    | none =>
      match next.bind scanGroup with
      | some (group, rest) =>
        let (groups, dotted, rest) := scanGroups false limit rest
        (group :: groups, dotted, rest)
      | none => ([], false, cs)

/-- Eight groups, of which a run of zeros may be left out. -/
def scanSix (cs : List Char) : Option (List Nat × List Char) :=
  let (head, dotted, rest) := scanGroups true 8 cs
  if head.length = 8 then some (head, rest)
  else if dotted then none
  else do
    let rest ← expect ':' (← expect ':' rest)
    let (tail, _, rest) := scanGroups true (7 - head.length) rest
    return (head ++ List.replicate (8 - head.length - tail.length) 0 ++ tail, rest)

def scanPort (cs : List Char) : Option (Nat × List Char) := do scanNumber 65535 (← expect ':' cs)

def scanFourAddress (cs : List Char) : Option (Address × List Char) := do
  let (octets, cs) ← scanOctets cs
  let (port, cs) ← scanPort cs
  return (⟨.four octets, 0, port⟩, cs)

def scanSixAddress (cs : List Char) : Option (Address × List Char) := do
  let (groups, cs) ← scanSix (← expect '[' cs)
  let (scope, cs) ← match cs with
    | '%' :: rest => scanNumber 4294967295 rest
    | _ => some (0, cs)
  let (port, cs) ← scanPort (← expect ']' cs)
  return (⟨.six groups, scope, port⟩, cs)

/-- The address that a text is. -/
def Address.parse? (s : String) : Option Address := do
  let (address, rest) ← (scanFourAddress s.toList).or (scanSixAddress s.toList)
  if rest.isEmpty then some address else none

end WebService.Network
