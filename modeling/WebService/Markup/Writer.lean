import WebService.Markup.Document
import WebService.Markup.Element
import WebService.Text.Letter

/-!
Writing element trees as XML, and as HTML, where void elements have no end tag and every other
element has one.
-/
namespace WebService.Markup

def isNameStart (c : Char) : Bool := Text.isAlphabetic c || c = '_' || c = ':'

def isNameChar (c : Char) : Bool :=
  Text.isAlphanumeric c || c = '_' || c = '-' || c = '.' || c = ':'

/-- Letters, digits and four marks, of which neither a digit, a dash nor a point comes first. -/
def isName (name : String) : Bool :=
  match name.toList with
  | [] => false
  | c :: cs => isNameStart c && cs.all isNameChar

def checkName (name : String) : Except Error Unit :=
  if isName name then .ok () else .error (.invalidName name)

/-- The first name of an element and its attributes that is not one is refused. -/
def Element.validate (e : Element) : Except Error Unit := do
  checkName e.name
  e.attributes.forM fun (name, _) => checkName name

def escapeChar (c : Char) : List Char :=
  if c = '<' then "&lt;".toList
  else if c = '>' then "&gt;".toList
  else if c = '&' then "&amp;".toList
  else if c = '\'' then "&apos;".toList
  else if c = '"' then "&quot;".toList
  else [c]

def escape (s : String) : List Char := s.toList.flatMap escapeChar

def writeAttributes (attributes : List (String × String)) : List Char :=
  attributes.flatMap fun (name, value) =>
    ' ' :: (name.toList ++ '=' :: '"' :: (escape value ++ ['"']))

def writeEnd (name : String) : List Char := '<' :: '/' :: (name.toList ++ ['>'])

mutual

def Element.writeXml : Element → Except Error (List Char)
  | .mk name attributes children => do
    (Element.mk name attributes children).validate
    let opening := '<' :: (name.toList ++ writeAttributes attributes)
    match children with
    | [] => return opening ++ ['/', '>']
    | _ => return opening ++ '>' :: ((← writeXmlNodes children) ++ writeEnd name)

def writeXmlNodes : List Node → Except Error (List Char)
  | [] => return []
  | .text s :: nodes => return escape s ++ (← writeXmlNodes nodes)
  | .element e :: nodes => do
    let first ← e.writeXml
    return first ++ (← writeXmlNodes nodes)

end

/-- The HTML elements without content and end tag. -/
def voidNames : List String :=
  ["area", "base", "br", "col", "embed", "hr", "img", "input", "link", "meta", "source", "track",
    "wbr"]

def isVoid (name : String) : Bool :=
  voidNames.contains (String.ofList (name.toList.map Char.toLower))

mutual

def Element.writeHtml : Element → Except Error (List Char)
  | .mk name attributes children => do
    (Element.mk name attributes children).validate
    let opening := '<' :: (name.toList ++ writeAttributes attributes ++ ['>'])
    if isVoid name then
      if children.isEmpty then return opening else .error (.voidWithChildren name)
    else return opening ++ (← writeHtmlNodes children) ++ writeEnd name

def writeHtmlNodes : List Node → Except Error (List Char)
  | [] => return []
  | .text s :: nodes => return escape s ++ (← writeHtmlNodes nodes)
  | .element e :: nodes => do
    let first ← e.writeHtml
    return first ++ (← writeHtmlNodes nodes)

end

/-- The XML text of an element tree. -/
def Element.toXml (e : Element) : Except Error String := e.writeXml.map String.ofList

/-- The HTML text of an element tree. -/
def Element.toHtml (e : Element) : Except Error String := e.writeHtml.map String.ofList

end WebService.Markup
