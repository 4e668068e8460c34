import WebService.Media.Mark

/-!
Formats that wrap others: media files with brands, archives with named entries, and frames that
may be skipped.
-/
namespace WebService.Media

/-! Media files -/

/-- The brand of a media file and those it is compatible with. -/
def brands? (data : List UInt8) : Option (List UInt8 × List (List UInt8)) :=
  let length := bigEndianValue (data.take 4)
  if data.length < 16 || data.length < length || !(Mark.text 4 "ftyp").stands data then none
  else
    let count := length / 4 - 4
    some ((data.drop 8).take 4,
      (List.range count).map fun i => (data.drop (16 + 4 * i)).take 4)

def isHeif (data : List UInt8) : Bool :=
  match brands? data with
  | none => false
  | some (major, others) =>
    major = ascii "heic"
      || ((major = ascii "mif1" || major = ascii "msf1") && others.contains (ascii "heic"))

def isAvif (data : List UInt8) : Bool :=
  match brands? data with
  | none => false
  | some (major, others) =>
    (major :: others).any fun brand => brand = ascii "avif" || brand = ascii "avis"

/-- The brands of plain video files. -/
def videoBrands : List String :=
  ["avc1", "dash", "iso2", "iso3", "iso4", "iso5", "iso6", "isom", "mmp4", "mp41", "mp42", "mp4v",
    "mp71", "MSNV", "NDAS", "NDSC", "NSDC", "NDSH", "NDSM", "NDSP", "NDSS", "NDXC", "NDXH", "NDXM",
    "NDXP", "NDXS", "F4V ", "F4P "]

def isBrandedVideo (data : List UInt8) : Bool :=
  videoBrands.any fun brand => (Mark.text 4 ("ftyp" ++ brand)).stands data

/-! Archives of office documents -/

/-- What begins the header of an archive's entry. -/
def entryMark : List UInt8 := [0x50, 0x4b, 0x03, 0x04]

inductive Office where
  | words
  | sheets
  | slides
deriving DecidableEq, Repr

/-- The kind of document that has an entry of the name at a place. -/
def officeAt? (offset : Nat) (data : List UInt8) : Option Office :=
  if (Mark.text offset "word/").stands data then some .words
  else if (Mark.text offset "ppt/").stands data then some .slides
  else if (Mark.text offset "xl/").stands data then some .sheets
  else none

/-- Where the next entry begins, looking at `count` places from the start of `data`. -/
def entryIndex? : Nat → List UInt8 → Option Nat
  | 0, _ => none
  | count + 1, data =>
    if entryMark.isPrefixOf data then some 0
    else match data with
      | [] => none
      | _ :: rest => (entryIndex? count rest).map (· + 1)

/-- The place of the name of the next entry that begins within 6000 octets of a place. -/
def nextName? (start : Nat) (data : List UInt8) : Option Nat :=
  (entryIndex? 5997 (data.drop start)).map fun i => start + i + 30

/-- The kind of an office document: by its first entry, or by the fourth if the first is one that
such documents begin with and the third is of some kind. -/
def office? (data : List UInt8) : Option Office :=
  if !entryMark.isPrefixOf data then none
  else (officeAt? 30 data).or <|
    if ["[Content_Types].xml", "_rels/.rels", "docProps"].any fun name =>
        (Mark.text 30 name).stands data then do
      let second ← nextName? (littleEndianValue ((data.drop 18).take 4) + 49) data
      let third ← nextName? second data
      let _ ← officeAt? third data
      let fourth ← nextName? (third + 26) data
      officeAt? fourth data
    else none

/-- The archive whose first entry is named `mimetype` and holds the given text. -/
def holdsType (size : Nat) (type : String) (data : List UInt8) : Bool :=
  (Pattern.mk size [⟨0, entryMark⟩, Mark.text 30 ("mimetype" ++ type)]).fits data

/-- The archive whose first entry is named `mimetype` and holds a type of open documents. The
twelve octets in front of its subtype do not count. -/
def holdsOpenDocument (kind : String) (data : List UInt8) : Bool :=
  (Pattern.mk 0 [⟨0, entryMark⟩, Mark.text 30 "mimetype",
    Mark.text 50 ("vnd.oasis.opendocument." ++ kind)]).fits data

/-! Frames -/

/-- Compressed frames, behind any number of frames to be skipped; `fuel` bounds that number. -/
def isFramed : Nat → List UInt8 → Bool
  | 0, _ => false
  | fuel + 1, data =>
    if [0x28, 0xb5, 0x2f, 0xfd].isPrefixOf data then true
    else
      let mark := littleEndianValue (data.take 4)
      let size := 8 + littleEndianValue ((data.drop 4).take 4)
      if data.length < 8 || mark / 16 ≠ 0x184d2a5 || data.length < size then false
      else isFramed fuel (data.drop size)

end WebService.Media
