/-!
Why a text is not the pattern of a route.
-/
namespace WebService.Route

inductive PatternFault where
  | noLeadingSlash
  | openPlaceholder
  | noName
  | repeatedName
  | partOfSegment
deriving DecidableEq, Repr

def PatternFault.message : PatternFault → String
  | noLeadingSlash => "must start with '/'"
  | openPlaceholder => "unterminated placeholder"
  | noName => "placeholder without a name"
  | repeatedName => "duplicate placeholder name"
  | partOfSegment => "placeholder must span a whole segment"

end WebService.Route
