/-!
Element trees: names with ordered attributes, and children that are elements or text.
-/
namespace WebService.Markup

mutual

inductive Element where
  | mk (name : String) (attributes : List (String × String)) (children : List Node)

inductive Node where
  | element (element : Element)
  | text (text : String)

end

deriving instance Repr for Element, Node

instance : Inhabited Element := ⟨.mk "" [] []⟩

/-- The attribute set to a value: in its place if the name is there already, last otherwise. -/
def setAttribute (name value : String) : List (String × String) → List (String × String)
  | [] => [(name, value)]
  | (n, v) :: rest =>
    if n = name then (n, value) :: rest else (n, v) :: setAttribute name value rest

namespace Element

def named (name : String) : Element := .mk name [] []

def name : Element → String
  | .mk name _ _ => name

def attributes : Element → List (String × String)
  | .mk _ attributes _ => attributes

def children : Element → List Node
  | .mk _ _ children => children

def attr (e : Element) (name value : String) : Element :=
  .mk e.name (setAttribute name value e.attributes) e.children

def getAttr? (e : Element) (name : String) : Option String := e.attributes.lookup name

def push (e : Element) (node : Node) : Element := .mk e.name e.attributes (e.children ++ [node])

def child (e inner : Element) : Element := e.push (.element inner)

def text (e : Element) (s : String) : Element := e.push (.text s)

end Element

end WebService.Markup
