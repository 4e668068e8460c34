/-!
Markup as a sequence of events: tags, runs of text, comments and declarations. End tags have to
match the tag opened last; attributes are not looked at beyond their quotes.
-/
namespace WebService.Markup

inductive Event where
  | start (name : List Char)
  | finish (name : List Char)
  | empty (name : List Char)
  | text (content : List Char)
  | data (content : List Char)
  | comment (content : List Char)
  | instruction (content : List Char)
  | declaration (content : List Char)
  | doctype (content : List Char)
deriving DecidableEq, Repr

/-- Why a text has no next event. -/
inductive Cause where
  | unknownMarkup
  | openInstruction
  | openComment
  | openDoctype
  | openData
  | openTag
  | namelessDoctype
  | unmatchedEnd (name : String)
  | mismatchedEnd (expected found : String)
deriving DecidableEq, Repr

def Cause.message : Cause → String
  | unknownMarkup => "syntax error: unknown or missed symbol in markup"
  | openInstruction =>
    "syntax error: processing instruction or xml declaration not closed: \x60?>\x60 not found " ++
      "before end of input"
  | openComment =>
    "syntax error: comment not closed: \x60-->\x60 not found before end of input"
  | openDoctype => "syntax error: DOCTYPE not closed: \x60>\x60 not found before end of input"
  | openData => "syntax error: CDATA not closed: \x60]]>\x60 not found before end of input"
  | openTag => "syntax error: tag not closed: \x60>\x60 not found before end of input"
  | namelessDoctype =>
    "ill-formed document: \x60<!DOCTYPE>\x60 declaration does not contain a name of a document type"
  | unmatchedEnd name =>
    "ill-formed document: close tag \x60</" ++ name ++ ">\x60 does not match any open tag"
  | mismatchedEnd expected found =>
    "ill-formed document: expected \x60</" ++ expected ++ ">\x60, but \x60</" ++ found
      ++ ">\x60 was found"

/-- A cause, and the text behind the place where it shows. -/
structure Fault where
  cause : Cause
  rest : List Char
deriving DecidableEq, Repr

/-- The text still to be read, and the names of the open elements, innermost first. -/
structure Source where
  rest : List Char
  opened : List (List Char)
deriving DecidableEq, Repr

def isSpace (c : Char) : Bool := c = ' ' || c = '\r' || c = '\n' || c = '\t'

/-- The text before and after the first `>` that `closes` accepts, given what stands before it in
reverse order. -/
def scanTo (closes : List Char → Bool) (before : List Char) :
    List Char → Option (List Char × List Char)
  | [] => none
  | c :: cs =>
    if c = '>' && closes before then some (before.reverse, cs)
    else scanTo closes (c :: before) cs

/-- The text up to the first `>` that is not quoted; `quote` is the quote still open. -/
def scanTag (quote : Option Char) (before : List Char) : List Char → Option (List Char × List Char)
  | [] => none
  | c :: cs =>
    match quote with
    | some q => scanTag (if c = q then none else some q) (c :: before) cs
    | none =>
      if c = '>' then some (before.reverse, cs)
      else scanTag (if c = '"' || c = '\'' then some c else none) (c :: before) cs

/-- The text up to the `>` that has no `<` to match; `depth` counts those that still need one. -/
def scanBalanced (depth : Nat) (before : List Char) : List Char → Option (List Char × List Char)
  | [] => none
  | c :: cs =>
    if c = '>' then
      match depth with
      | 0 => some (before.reverse, cs)
      | depth + 1 => scanBalanced depth (c :: before) cs
    else scanBalanced (if c = '<' then depth + 1 else depth) (c :: before) cs

/-- A name ends at the first white space. -/
def nameOf (content : List Char) : List Char := content.takeWhile fun c => !isSpace c

/-- White space at the end removed, unless there is nothing else. -/
def trimName (content : List Char) : List Char :=
  let name := (content.reverse.dropWhile isSpace).reverse
  if name.isEmpty then content else name

def endsWithMarks (mark : Char) (before : List Char) : Bool :=
  match before with
  | a :: b :: _ => a = mark && b = mark
  | _ => false

namespace Source

/-- The step that yields an event and leaves the same elements open. -/
def plain (s : Source) (event : Event) (rest : List Char) : Except Fault (Event × Source) :=
  .ok (event, { s with rest := rest })

/-- A comment, character data or a document type, after the opening `<`. -/
def bang (s : Source) (chunk : List Char) : Except Fault (Event × Source) :=
  match chunk with
  | '!' :: '-' :: _ =>
    match scanTo (fun before => 4 < before.length && endsWithMarks '-' before) [] chunk with
    | none => .error ⟨.openComment, []⟩
    | some (content, rest) =>
      match content with
      | '!' :: '-' :: '-' :: body => s.plain (.comment (body.take (body.length - 2))) rest
      | _ => .error ⟨.openComment, rest⟩
  | '!' :: '[' :: _ =>
    match scanTo (endsWithMarks ']') [] chunk with
    | none => .error ⟨.openData, []⟩
    | some (content, rest) =>
      match content with
      | '!' :: '[' :: 'C' :: 'D' :: 'A' :: 'T' :: 'A' :: '[' :: body =>
        s.plain (.data (body.take (body.length - 2))) rest
      | _ => .error ⟨.openData, rest⟩
  | '!' :: c :: _ =>
    if c = 'D' || c = 'd' then
      match scanBalanced 0 [] chunk with
      | none => .error ⟨.openDoctype, []⟩
      | some (content, rest) =>
        if (content.take 8).map Char.toLower = "!doctype".toList then
          match (content.drop 8).dropWhile isSpace with
          | [] => .error ⟨.namelessDoctype, rest⟩
          | body => s.plain (.doctype body) rest
        else .error ⟨.openDoctype, rest⟩
    else .error ⟨.unknownMarkup, chunk⟩
  | _ => .error ⟨.unknownMarkup, chunk⟩

/-- A processing instruction or declaration, after the opening `<`. -/
def question (s : Source) (chunk : List Char) : Except Fault (Event × Source) :=
  match scanTo (fun before => before.head? == some '?') [] chunk with
  | none => .error ⟨.openInstruction, []⟩
  | some (content, rest) =>
    if content.length < 2 then .error ⟨.openInstruction, rest⟩
    else
      let body := (content.drop 1).take (content.length - 2)
      if body.take 3 = "xml".toList && ((body.drop 3).head?.map isSpace).getD true then
        s.plain (.declaration body) rest
      else s.plain (.instruction body) rest

/-- An end tag, given what stands between `</` and `>`. -/
def endTag (s : Source) (content rest : List Char) : Except Fault (Event × Source) :=
  let name := trimName content
  match s.opened with
  | [] => .error ⟨.unmatchedEnd (String.ofList name), rest⟩
  | expected :: opened =>
    if name = expected then .ok (.finish name, ⟨rest, opened⟩)
    else .error ⟨.mismatchedEnd (String.ofList expected) (String.ofList name), rest⟩

/-- A start tag or an empty element, given what stands between `<` and `>`. -/
def startTag (s : Source) (content rest : List Char) : Except Fault (Event × Source) :=
  match content.reverse with
  | '/' :: reversed => s.plain (.empty (nameOf reversed.reverse)) rest
  | _ =>
    let name := nameOf content
    .ok (.start name, ⟨rest, name :: s.opened⟩)

/-- What begins with the `<` that stands before `chunk`. -/
def markup (s : Source) (chunk : List Char) : Except Fault (Event × Source) :=
  match chunk with
  | '!' :: _ => s.bang chunk
  | '?' :: _ => s.question chunk
  | _ =>
    match scanTag none [] chunk with
    | none => .error ⟨.openTag, []⟩
    | some (content, rest) =>
      match content with
      | '/' :: name => s.endTag name rest
      | _ => s.startTag content rest

/-- The next event, or none at the end of the text. -/
def next (s : Source) : Except Fault (Option (Event × Source)) :=
  match s.rest with
  | [] => .ok none
  | '<' :: chunk => (s.markup chunk).map some
  | _ =>
    .ok (some (.text (s.rest.takeWhile (· ≠ '<')),
      { s with rest := s.rest.dropWhile (· ≠ '<') }))

/-- The source of a text, which may begin with a byte order mark. -/
def ofText (cs : List Char) : Source :=
  match cs with
  | '\ufeff' :: rest => ⟨rest, []⟩
  | _ => ⟨cs, []⟩

end Source

end WebService.Markup
