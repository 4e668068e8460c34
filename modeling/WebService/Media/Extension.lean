import WebService.Media.Signature
import WebService.Text.Split

/-!
Media types by the extensions of file names, which count where the data has no signature.
-/
namespace WebService.Media

def octetStream : String := "application/octet-stream"

/-- The media type for an extension in small letters. -/
def ofExtension (extension : Option String) : String :=
  match extension with
  | some "html" | some "htm" => "text/html; charset=utf-8"
  | some "css" => "text/css"
  | some "txt" | some "md" => "text/plain; charset=utf-8"
  | some "csv" => "text/csv"
  | some "xml" => "application/xml"
  | some "js" | some "mjs" => "application/javascript"
  | some "json" => "application/json"
  | some "wasm" => "application/wasm"
  | some "png" => "image/png"
  | some "jpg" | some "jpeg" => "image/jpeg"
  | some "gif" => "image/gif"
  | some "svg" => "image/svg+xml"
  | some "ico" => "image/x-icon"
  | some "webp" => "image/webp"
  | some "mp4" => "video/mp4"
  | some "webm" => "video/webm"
  | some "mp3" => "audio/mpeg"
  | some "wav" => "audio/wav"
  | some "pdf" => "application/pdf"
  | some "zip" => "application/zip"
  | some "gz" | some "gzip" => "application/gzip"
  | some "tar" => "application/x-tar"
  | _ => octetStream

/-- The last name of a path, unless that is the parent folder. -/
def fileName? (path : List Char) : Option (List Char) :=
  let names := (Text.splitOn (· = '/') path).filter fun name => !name.isEmpty && name ≠ ['.']
  match names.getLast? with
  | some name => if name = ['.', '.'] then none else some name
  | none => none

/-- What follows the last point of a path's last name, unless nothing stands before that point. -/
def extension? (path : List Char) : Option (List Char) := do
  let name ← fileName? path
  let (reversed, before) ← Text.splitFirst? (· = '.') name.reverse
  if before.isEmpty then none else some reversed.reverse

/-- The media type of data: by its signature, else by the extension of its file's name. -/
def typeOf (data : List UInt8) (filename : Option String) : String :=
  match detect? data with
  | some type => type
  | none =>
    match filename.bind fun name => extension? name.toList with
    | some extension => ofExtension (some (String.ofList (extension.map Char.toLower)))
    | none => octetStream

end WebService.Media
