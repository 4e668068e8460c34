import WebService.Media.Mark

/-!
Storages: data in sectors of one size, with a table that tells the sector after each. The first
sector describes the rest and has no number.
-/
namespace WebService.Media

/-- The octets of a storage, and the size that its version gives to sectors. -/
structure Storage where
  octets : Array UInt8
  version : Nat
  sectorSize : Nat

namespace Storage

/-- Entries of tables above this one name no sector. -/
def lastSector : Nat := 0xfffffffa

def invalidSector : Nat := 0xfffffffb

/-- Stands for a sector that holds a table. -/
def tableSector : Nat := 0xfffffffd

def endOfChain : Nat := 0xfffffffe

def freeSector : Nat := 0xffffffff

def mark : List UInt8 := [0xd0, 0xcf, 0x11, 0xe0, 0xa1, 0xb1, 0x1a, 0xe1]

/-- The number in `size` octets at a place. -/
def numberAt? (s : Storage) (place size : Nat) : Option Nat :=
  if place + size ≤ s.octets.size then
    some (littleEndianValue (s.octets.extract place (place + size)).toList)
  else none

/-- The storage that data begin to describe. -/
def ofData? (data : List UInt8) : Option Storage := do
  let octets := data.toArray
  guard (mark.isPrefixOf data && 512 ≤ octets.size)
  let version := littleEndianValue ((data.drop 26).take 2)
  let (shift, sectorSize) ←
    if version = 3 then some (9, 512) else if version = 4 then some (12, 4096) else none
  let s : Storage := ⟨octets, version, sectorSize⟩
  guard (s.numberAt? 28 2 = some 0xfffe && s.numberAt? 30 2 = some shift
    && s.numberAt? 32 2 = some 6 && s.numberAt? 56 4 = some 4096 && sectorSize ≤ octets.size)
  return s

/-- How many sectors there are; the last may be short. -/
def sectorCount (s : Storage) : Nat := (s.octets.size + s.sectorSize - 1) / s.sectorSize - 1

def placeOf (s : Storage) (sector : Nat) : Nat := (sector + 1) * s.sectorSize

/-- The entries of a table that a sector holds, unless the data end within it. -/
def entries? (s : Storage) (sector : Nat) : Option (List Nat) :=
  (List.range (s.sectorSize / 4)).mapM fun i => s.numberAt? (s.placeOf sector + 4 * i) 4

/-- The table's entries without those of one kind at the end. -/
def dropTrailing (entry : Nat) (entries : List Nat) : List Nat :=
  (entries.reverse.dropWhile (· = entry)).reverse

/-! The table of sectors -/

/-- The first sectors of the table, which the description lists. -/
def initialSectors? (s : Storage) : Option (List Nat) := do
  let slots ← (List.range 109).mapM fun i => s.numberAt? (76 + 4 * i) 4
  let listed := slots.takeWhile (· ≠ freeSector)
  guard (listed.all (· ≤ lastSector))
  return listed ++ List.replicate (109 - listed.length) freeSector

/-- The sectors that list further sectors of the table, and what they list. The last entry of each
tells the next, and a chain that goes on for longer than there are sectors has no end. -/
def listChain? (s : Storage) : Nat → Nat → Option (List Nat × List Nat)
  | 0, _ => none
  | fuel + 1, sector =>
    if sector = endOfChain || sector = freeSector then some ([], [])
    else do
      guard (sector < s.sectorCount)
      let entries ← s.entries? sector
      let listed := entries.dropLast
      guard (listed.all fun entry => entry = freeSector || entry ≤ lastSector)
      let (sectors, others) ← s.listChain? fuel (← entries.getLast?)
      return (sector :: sectors, listed ++ others)

def namesOnce : List Nat → Bool
  | [] => true
  | entry :: rest => !rest.contains entry && namesOnce rest

/-- Whether the entries that name sectors name different ones of the table. -/
def isLinked (table : Array Nat) : Bool :=
  let named := table.toList.filter (· ≤ lastSector)
  named.all (· < table.size) && namesOnce named

/-- The table of sectors. Zeros may fill it up behind the last sector. -/
def table? (s : Storage) : Option (Array Nat) := do
  let (lists, others) ← s.listChain? (s.sectorCount + 1) (← s.numberAt? 68 4)
  let sectors := dropTrailing freeSector ((← s.initialSectors?) ++ others)
  guard (sectors.all (· < s.sectorCount))
  let entries := (← sectors.mapM s.entries?).flatten
  let filled := entries.take s.sectorCount ++ dropTrailing 0 (entries.drop s.sectorCount)
  let table := (dropTrailing freeSector filled).toArray
  guard (table.size ≤ s.sectorCount && (lists ++ sectors).all (· < table.size))
  let table := (lists ++ sectors).foldl (fun t sector => t.setIfInBounds sector tableSector) table
  guard (isLinked table && !table.contains invalidSector)
  return table

/-- The sectors of a chain. In a linked table a chain without end is one that comes back to its
start. -/
def chain? (table : Array Nat) : Nat → Nat → Option (List Nat)
  | 0, _ => none
  | fuel + 1, sector =>
    if sector = endOfChain then some []
    else do
      let rest ← chain? table fuel (← table[sector]?)
      return sector :: rest

/-- The table of the small sectors that the root's stream is made of. -/
def smallTable? (s : Storage) (table : Array Nat) : Option (Array Nat) := do
  let sectors ← chain? table (table.size + 1) (← s.numberAt? 60 4)
  let entries := (← sectors.mapM s.entries?).flatten
  let small := (dropTrailing freeSector entries).toArray
  guard (isLinked small)
  return small

end Storage

end WebService.Media
