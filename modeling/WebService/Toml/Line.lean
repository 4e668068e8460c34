/-!
Blanks, comments and ends of lines in TOML documents. A line ends with a line feed, which a carriage
return may precede.
-/
namespace WebService.Toml

def isBlank (c : Char) : Bool := c = ' ' || c = '\t'

/-- Characters that comments and single-line texts may hold: no controls but the tab. -/
def isPlain (c : Char) : Bool := c = '\t' || (0x20 ≤ c.toNat && c.toNat ≠ 0x7f)

def skipBlank (cs : List Char) : List Char := cs.dropWhile isBlank

/-- What follows a line break that the text begins with. -/
def lineBreak? : List Char → Option (List Char)
  | '\n' :: rest => some rest
  | '\r' :: '\n' :: rest => some rest
  | _ => none

/-- What follows blanks, a comment if there is one, and the end of the line or of the text. -/
def endLine? (cs : List Char) : Option (List Char) :=
  let rest := match skipBlank cs with
    | '#' :: comment => comment.dropWhile isPlain
    | other => other
  if rest.isEmpty then some [] else lineBreak? rest

/-- The text without the blanks and line breaks at its start. -/
def skipBreaks : List Char → List Char
  | '\r' :: '\n' :: cs => skipBreaks cs
  | c :: cs => if isBlank c || c = '\n' then skipBreaks cs else c :: cs
  | [] => []

/-- The text without the blanks, line breaks and comments at its start; `inComment` tells whether it
begins inside a comment. -/
def skipFrom (inComment : Bool) : List Char → List Char
  | '\r' :: '\n' :: cs => skipFrom false cs
  | c :: cs =>
    if inComment && isPlain c then skipFrom true cs
    else if isBlank c || c = '\n' then skipFrom false cs
    else if c = '#' then skipFrom true cs
    else c :: cs
  | [] => []

def skipLines (cs : List Char) : List Char := skipFrom false cs

end WebService.Toml
