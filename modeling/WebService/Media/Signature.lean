import WebService.Media.Office

/-!
Media types of data by their signatures. The first signature that fits decides.
-/
namespace WebService.Media

structure Signature where
  type : String
  fits : List UInt8 → Bool

/-- A signature by any of several patterns. -/
def Signature.of (type : String) (patterns : List Pattern) : Signature :=
  ⟨type, fun data => patterns.any fun p => p.fits data⟩

/-! Programs and certificates -/

/-- Compiled classes and programs for several machines share a mark; the former have a version where
the latter have a small number. -/
def isClass (data : List UInt8) : Bool :=
  (Pattern.lead 8 [0xca, 0xfe, 0xba, 0xbe]).fits data
    && 45 ≤ bigEndianValue ((data.drop 6).take 2)

/-- Programs for several machines, whose number is below the version of any class. -/
def isUniversal (data : List UInt8) : Bool :=
  (Pattern.lead 8 [0xca, 0xfe, 0xba, 0xbe]).fits data
    && bigEndianValue ((data.drop 4).take 4) < 45

def isMachine (data : List UInt8) : Bool :=
  isUniversal data || [
    Pattern.lead 4 [0xcf, 0xfa, 0xed, 0xfe], .lead 4 [0xce, 0xfa, 0xed, 0xfe],
    .lead 4 [0xfe, 0xed, 0xfa, 0xcf], .lead 4 [0xfe, 0xed, 0xfa, 0xce]].any fun p => p.fits data

def bytecodePattern : Pattern := ⟨37, [Mark.text 0 "dex\n", ⟨36, [0x70]⟩]⟩

def isOptimizedBytecode (data : List UInt8) : Bool :=
  (Pattern.word 101 "dey\n").fits data && bytecodePattern.fits ((data.drop 40).take 60)

def programs : List Signature := [
  .of "application/wasm" [.lead 8 [0x00, 0x61, 0x73, 0x6d, 0x01, 0x00, 0x00, 0x00]],
  .of "application/x-executable" [.lead 53 [0x7f, 0x45, 0x4c, 0x46]],
  .of "application/vnd.microsoft.portable-executable" [.word 2 "MZ"],
  ⟨"application/java", isClass⟩,
  .of "application/x-llvm" [.word 2 "BC"],
  ⟨"application/x-mach-binary", isMachine⟩,
  .of "application/vnd.android.dex" [bytecodePattern],
  ⟨"application/vnd.android.dey", isOptimizedBytecode⟩,
  .of "application/x-x509-ca-cert" [.lead 3 [0x30, 0x82]],
  .of "application/x-executable" [.lead 3 [0x64, 0x86], .lead 3 [0x4c, 0x01], .lead 3 [0x00, 0x02]],
  .of "application/x-x509-ca-cert" [.word 12 "-----BEGIN "]]

/-! Books and pictures -/

def isCameraRaw (data : List UInt8) : Bool :=
  (Pattern.mk 11 [⟨0, [0x49, 0x49, 0x2a, 0x00]⟩, ⟨8, [0x43, 0x52, 0x02]⟩]).fits data
    || (Pattern.mk 11 [⟨0, [0x4d, 0x4d, 0x00, 0x2a]⟩, ⟨8, [0x43, 0x52, 0x02]⟩]).fits data

/-- Pictures in tagged form, unless an octet of the mark of raw ones stands in its place. -/
def isTiff (data : List UInt8) : Bool :=
  ((Pattern.lead 10 [0x49, 0x49, 0x2a, 0x00]).fits data
    || (Pattern.lead 10 [0x4d, 0x4d, 0x00, 0x2a]).fits data)
    && !(Mark.mk 8 [0x43]).stands data && !(Mark.mk 9 [0x52]).stands data

def pictures : List Signature := [
  ⟨"application/epub+zip", holdsType 58 "application/epub+zip"⟩,
  .of "application/x-mobipocket-ebook" [⟨68, [Mark.text 60 "BOOKMOBI"]⟩],
  .of "image/jpeg" [.lead 3 [0xff, 0xd8, 0xff]],
  .of "image/jp2" [.lead 13
    [0x00, 0x00, 0x00, 0x0c, 0x6a, 0x50, 0x20, 0x20, 0x0d, 0x0a, 0x87, 0x0a, 0x00]],
  .of "image/png" [.lead 4 [0x89, 0x50, 0x4e, 0x47]],
  .of "image/gif" [.word 3 "GIF"],
  .of "image/webp" [⟨12, [Mark.text 8 "WEBP"]⟩],
  ⟨"image/x-canon-cr2", isCameraRaw⟩,
  ⟨"image/tiff", isTiff⟩,
  .of "image/bmp" [.word 2 "BM"],
  .of "image/vnd.ms-photo" [.lead 3 [0x49, 0x49, 0xbc]],
  .of "image/vnd.adobe.photoshop" [.word 4 "8BPS"],
  .of "image/vnd.microsoft.icon" [.lead 4 [0x00, 0x00, 0x01, 0x00]],
  ⟨"image/heif", isHeif⟩,
  ⟨"image/avif", isAvif⟩,
  .of "image/jxl" [.lead 3 [0xff, 0x0a],
    .lead 12 [0x00, 0x00, 0x00, 0x0c, 0x4a, 0x58, 0x4c, 0x20, 0x0d, 0x0a, 0x87, 0x0a]],
  ⟨"image/openraster", holdsType 58 "image/openraster"⟩,
  .of "image/vnd.djvu" [⟨15, [Mark.text 0 "AT&TFORM", Mark.text 12 "DJV"]⟩]]

/-! Video, sound and fonts -/

/-- The start codes of program streams. -/
def isStream (data : List UInt8) : Bool :=
  match data with
  | 0x00 :: 0x00 :: 0x01 :: code :: _ => 0xb0 ≤ code && code ≤ 0xbf
  | _ => false

def films : List Signature := [
  ⟨"video/mp4", isBrandedVideo⟩,
  .of "video/x-m4v" [⟨11, [Mark.text 4 "ftypM4V"]⟩],
  .of "video/x-matroska" [
    ⟨16, [⟨0, [0x1a, 0x45, 0xdf, 0xa3, 0x93, 0x42, 0x82, 0x88]⟩, Mark.text 8 "matroska"]⟩,
    ⟨39, [Mark.text 31 "matroska"]⟩],
  .of "video/webm" [.lead 4 [0x1a, 0x45, 0xdf, 0xa3]],
  .of "video/quicktime" [⟨16, [Mark.text 4 "ftypqt  "]⟩, ⟨16, [Mark.text 4 "moov"]⟩,
    ⟨16, [Mark.text 4 "mdat"]⟩, ⟨16, [Mark.text 12 "mdat"]⟩],
  .of "video/x-msvideo" [⟨11, [Mark.text 0 "RIFF", Mark.text 8 "AVI"]⟩],
  .of "video/x-ms-wmv" [.lead 10 [0x30, 0x26, 0xb2, 0x75, 0x8e, 0x66, 0xcf, 0x11, 0xa6, 0xd9]],
  ⟨"video/mpeg", isStream⟩,
  .of "video/x-flv" [.lead 4 [0x46, 0x4c, 0x56, 0x01]]]

def sounds : List Signature := [
  .of "audio/midi" [.word 4 "MThd"],
  .of "audio/mpeg" [.word 3 "ID3", .lead 3 [0xff, 0xfb], .lead 3 [0xff, 0xfa]],
  .of "audio/m4a" [⟨11, [Mark.text 4 "ftypM4A"]⟩, .word 11 "M4A "],
  .of "audio/opus" [⟨36, [Mark.text 0 "OggS", Mark.text 28 "OpusHead"]⟩],
  .of "audio/ogg" [.word 4 "OggS"],
  .of "audio/x-flac" [.word 4 "fLaC"],
  .of "audio/x-wav" [⟨12, [Mark.text 0 "RIFF", Mark.text 8 "WAVE"]⟩],
  .of "audio/amr" [.word 12 "#!AMR\n"],
  .of "audio/aac" [.lead 2 [0xff, 0xf1], .lead 2 [0xff, 0xf9]],
  .of "audio/x-aiff" [⟨12, [Mark.text 0 "FORM", Mark.text 8 "AIFF"]⟩],
  .of "audio/x-dsf" [.word 5 "DSD "],
  .of "audio/x-ape" [.word 5 "MAC "]]

def fonts : List Signature := [
  .of "application/font-woff" [.lead 8 (ascii "wOFF" ++ [0x00, 0x01, 0x00, 0x00]),
    .lead 8 (ascii "wOF2" ++ [0x00, 0x01, 0x00, 0x00])],
  .of "application/font-sfnt" [.lead 5 [0x00, 0x01, 0x00, 0x00, 0x00],
    .lead 5 [0x4f, 0x54, 0x54, 0x4f, 0x00]]]

/-! Documents and archives -/

def documents : List Signature := [
  ⟨"application/msword", fun data => storedOffice? data = some .words⟩,
  ⟨"application/vnd.ms-excel", fun data => storedOffice? data = some .sheets⟩,
  ⟨"application/vnd.ms-powerpoint", fun data => storedOffice? data = some .slides⟩,
  ⟨"application/vnd.openxmlformats-officedocument.wordprocessingml.document",
    fun data => office? data = some .words⟩,
  ⟨"application/vnd.openxmlformats-officedocument.spreadsheetml.sheet",
    fun data => office? data = some .sheets⟩,
  ⟨"application/vnd.openxmlformats-officedocument.presentationml.presentation",
    fun data => office? data = some .slides⟩,
  ⟨"application/vnd.oasis.opendocument.text", holdsOpenDocument "text"⟩,
  ⟨"application/vnd.oasis.opendocument.spreadsheet", holdsOpenDocument "spreadsheet"⟩,
  ⟨"application/vnd.oasis.opendocument.presentation", holdsOpenDocument "presentation"⟩]

def archives : List Signature := [
  .of "application/zip" [.lead 4 entryMark, .lead 4 [0x50, 0x4b, 0x05, 0x06],
    .lead 4 [0x50, 0x4b, 0x07, 0x08]],
  .of "application/x-tar" [⟨262, [Mark.text 257 "ustar"]⟩],
  .of "application/vnd.rar" [.lead 7 (ascii "Rar!" ++ [0x1a, 0x07, 0x00]),
    .lead 7 (ascii "Rar!" ++ [0x1a, 0x07, 0x01])],
  .of "application/gzip" [.lead 3 [0x1f, 0x8b, 0x08]],
  .of "application/x-bzip2" [.word 3 "BZh"],
  .of "application/x-7z-compressed" [.lead 6 [0x37, 0x7a, 0xbc, 0xaf, 0x27, 0x1c]],
  .of "application/x-xz" [.lead 6 [0xfd, 0x37, 0x7a, 0x58, 0x5a, 0x00]],
  .of "application/pdf" [.word 4 "%PDF"],
  .of "application/x-shockwave-flash" [.word 3 "CWS", .word 3 "FWS"],
  .of "application/rtf" [.lead 5 [0x7b, 0x5c, 0x72, 0x74, 0x66]],
  .of "application/octet-stream" [
    ⟨36, [Mark.text 34 "LP", ⟨8, [0x02, 0x00, 0x01]⟩]⟩,
    ⟨36, [Mark.text 34 "LP", ⟨8, [0x01, 0x00, 0x00]⟩]⟩,
    ⟨36, [Mark.text 34 "LP", ⟨8, [0x02, 0x00, 0x02]⟩]⟩],
  .of "application/postscript" [.word 2 "%!"],
  .of "application/vnd.sqlite3" [.word 4 "SQLi"],
  .of "application/x-nintendo-nes-rom" [.lead 4 [0x4e, 0x45, 0x53, 0x1a]],
  .of "application/x-google-chrome-extension" [.word 4 "Cr24"],
  .of "application/vnd.ms-cab-compressed" [.word 4 "MSCF", .word 4 "ISc("],
  .of "application/vnd.debian.binary-package" [.word 21 "!<arch>\ndebian-binary"],
  .of "application/x-unix-archive" [.word 7 "!<arch>"],
  .of "application/x-compress" [.lead 2 [0x1f, 0xa0], .lead 2 [0x1f, 0x9d]],
  .of "application/x-lzip" [.word 4 "LZIP"],
  .of "application/x-rpm" [.lead 97 [0xed, 0xab, 0xee, 0xdb]],
  .of "application/dicom" [⟨132, [Mark.text 128 "DICM"]⟩],
  ⟨"application/zstd", fun data => isFramed (data.length + 1) data⟩,
  .of "application/x-ole-storage" [⟨8, [⟨0, Storage.mark⟩]⟩],
  .of "application/x-cpio" [.lead 2 [0xc7, 0x71], .lead 2 [0x71, 0xc7], .word 7 "070701"]]

/-! Text -/

def isLeadingSpace (b : UInt8) : Bool :=
  b = 0x09 || b = 0x0a || b = 0x0c || b = 0x0d || b = 0x20

/-- The data without byte order marks in front, of any of three kinds and any number. -/
def skipOrderMarks : List UInt8 → List UInt8
  | 0xef :: 0xbb :: 0xbf :: rest => skipOrderMarks rest
  | 0xfe :: 0xff :: rest => skipOrderMarks rest
  | 0xff :: 0xfe :: rest => skipOrderMarks rest
  | data => data

def upperOctet (b : UInt8) : UInt8 := if 0x61 ≤ b && b ≤ 0x7a then b - 0x20 else b

/-- What follows a word at the start, where small and capital letters count as equal. -/
def afterWord? (word : String) (data : List UInt8) : Option (List UInt8) :=
  if (data.take word.length).map upperOctet = ascii word then some (data.drop word.length) else none

/-- Tags with which pages begin. -/
def openingTags : List String :=
  ["<!DOCTYPE HTML", "<HTML", "<HEAD", "<SCRIPT", "<IFRAME", "<H1", "<DIV", "<FONT", "<TABLE",
    "<A", "<STYLE", "<TITLE", "<B", "<BODY", "<BR", "<P", "<!--"]

def isPage (data : List UInt8) : Bool :=
  let data := data.dropWhile isLeadingSpace
  openingTags.any fun tag =>
    match afterWord? tag data with
    | some (b :: _) => b = 0x20 || b = 0x3e
    | _ => false

def isMarkup (data : List UInt8) : Bool :=
  (afterWord? "<?XML" (skipOrderMarks (data.dropWhile isLeadingSpace))).isSome

def texts : List Signature := [
  ⟨"text/html", isPage⟩,
  ⟨"text/xml", isMarkup⟩,
  .of "text/x-shellscript" [.word 3 "#!"]]

def signatures : List Signature :=
  programs ++ pictures ++ films ++ sounds ++ fonts ++ documents ++ archives ++ texts

/-- The media type that a signature in the data tells. -/
def detect? (data : List UInt8) : Option String :=
  (signatures.find? fun s => s.fits data).map (·.type)

end WebService.Media
