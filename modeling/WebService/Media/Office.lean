import WebService.Media.Container
import WebService.Media.Storage.Directory

/-!
Office documents in storages, which the class of the root tells apart.
-/
namespace WebService.Media

/-- The kinds of documents by the classes of their roots. -/
def officeClasses : List (List UInt8 × Office) := [
  ([0x10, 0x08, 0x02, 0, 0, 0, 0, 0, 0xc0, 0, 0, 0, 0, 0, 0, 0x46], .sheets),
  ([0x20, 0x08, 0x02, 0, 0, 0, 0, 0, 0xc0, 0, 0, 0, 0, 0, 0, 0x46], .sheets),
  ([0x06, 0x09, 0x02, 0, 0, 0, 0, 0, 0xc0, 0, 0, 0, 0, 0, 0, 0x46], .words),
  ([0x10, 0x8d, 0x81, 0x64, 0x9b, 0x4f, 0xcf, 0x11,
    0x86, 0xea, 0x00, 0xaa, 0x00, 0xb9, 0x29, 0xe8], .slides)]

/-- The kind of a document in a storage that can be read. -/
def storedOffice? (data : List UInt8) : Option Office := do
  let root ← (← Storage.ofData? data).root?
  officeClasses.lookup root.classId

end WebService.Media
