import WebService.Media.Storage.Sector
import WebService.Text.Uppercase

/-!
The directory of a storage: entries in a tree, where siblings stand in the order of their names.
-/
namespace WebService.Media.Storage

inductive EntryKind where
  | unused
  | storage
  | stream
  | root
deriving DecidableEq, Repr

def EntryKind.ofNumber? : Nat → Option EntryKind
  | 0 => some .unused
  | 1 => some .storage
  | 2 => some .stream
  | 5 => some .root
  | _ => none

structure Entry where
  name : List Char
  kind : EntryKind
  left : Option Nat
  right : Option Nat
  child : Option Nat
  classId : List UInt8
  length : Nat
deriving DecidableEq, Repr

/-- The characters of UTF-16 code units, if each half of a pair has the other one. -/
def charsOfUnits? : List Nat → Option (List Char)
  | [] => some []
  | unit :: rest =>
    if unit < 0xd800 || 0xdfff < unit then (charsOfUnits? rest).map (Char.ofNat unit :: ·)
    else match rest with
      | [] => none
      | low :: rest =>
        if unit < 0xdc00 && 0xdc00 ≤ low && low ≤ 0xdfff then
          (charsOfUnits? rest).map
            (Char.ofNat (0x10000 + (unit - 0xd800) * 0x400 + (low - 0xdc00)) :: ·)
        else none

/-- How many UTF-16 code units a name takes. -/
def unitCount (name : List Char) : Nat :=
  name.foldl (fun n c => n + if c.toNat < 0x10000 then 1 else 2) 0

/-- The name in the 32 code units at a place, of which the length is told behind them. -/
def nameAt? (s : Storage) (place : Nat) : Option (List Char) := do
  let units ← (List.range 32).mapM fun i => s.numberAt? (place + 2 * i) 2
  let size ← s.numberAt? (place + 64) 2
  let count := size / 2 - 1
  guard (size ≤ 64 && size % 2 = 0 && units[count]? = some 0)
  let name ← charsOfUnits? (units.take count)
  guard (name.all fun c => c ≠ '/' && c ≠ '\\' && c ≠ ':' && c ≠ '!')
  return name

/-- A link to another entry, if there is one. -/
def linkAt? (s : Storage) (place : Nat) : Option (Option Nat) := do
  let entry ← s.numberAt? place 4
  if entry = freeSector then return none
  guard (entry ≤ lastSector)
  return some entry

def entryAt? (s : Storage) (place : Nat) : Option Entry := do
  guard (place + 128 ≤ s.octets.size)
  let name ← s.nameAt? place
  let kind ← EntryKind.ofNumber? (← s.numberAt? (place + 66) 1)
  guard ((← s.numberAt? (place + 67) 1) ≤ 1)
  let left ← s.linkAt? (place + 68)
  let right ← s.linkAt? (place + 72)
  let child ← s.linkAt? (place + 76)
  guard (kind ≠ .stream || child.isNone)
  let length ← s.numberAt? (place + 120) (if s.version = 3 then 4 else 8)
  return ⟨name, kind, left, right, child,
    (s.octets.extract (place + 80) (place + 96)).toList, length⟩

def directory? (s : Storage) (table : Array Nat) : Option (Array Entry) := do
  let sectors ← chain? table (table.size + 1) (← s.numberAt? 48 4)
  let places := sectors.flatMap fun sector =>
    (List.range (s.sectorSize / 128)).map fun i => s.placeOf sector + 128 * i
  return (← places.mapM s.entryAt?).toArray

def textPrecedes : List Char → List Char → Bool
  | _, [] => false
  | [], _ :: _ => true
  | a :: as, b :: bs => a.toNat < b.toNat || (a = b && textPrecedes as bs)

/-- Shorter names stand before longer ones, and those of one length in the order of their
capitals. -/
def namePrecedes (a b : List Char) : Bool :=
  unitCount a < unitCount b
    || (unitCount a = unitCount b && textPrecedes (Text.uppercase a) (Text.uppercase b))

/-- Whether an entry may stand at a number, and its siblings on their sides of it. -/
def isInPlace (entries : Array Entry) (number : Nat) (entry : Entry) : Bool :=
  (if number = 0 then entry.kind = .root else entry.kind = .storage || entry.kind = .stream)
    && entry.left.all (fun id => entries[id]?.any fun e => namePrecedes e.name entry.name)
    && entry.right.all (fun id => entries[id]?.any fun e => namePrecedes entry.name e.name)

/-- Whether all entries below the given ones exist, are in place and are reached only once; `fuel`
bounds their number. -/
def isTree (entries : Array Entry) : Nat → List Nat → List Nat → Bool
  | _, _, [] => true
  | 0, _, _ :: _ => false
  | fuel + 1, seen, number :: rest =>
    match entries[number]? with
    | none => false
    | some entry =>
      !seen.contains number && isInPlace entries number entry
        && isTree entries fuel (number :: seen)
          (entry.left.toList ++ entry.right.toList ++ entry.child.toList ++ rest)

/-- The root of a storage of which all tables are sound. Its stream is made of small sectors, and
has all that their table tells of. -/
def root? (s : Storage) : Option Entry := do
  let table ← s.table?
  let entries ← s.directory? table
  let root ← entries[0]?
  guard (root.length % 64 = 0 && isTree entries (entries.size + 1) [] [0])
  let small ← s.smallTable? table
  guard (small.size ≤ root.length / 64)
  return root

end WebService.Media.Storage
