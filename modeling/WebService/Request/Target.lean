import WebService.Request.Basic

/-!
Targets of requests as they stand in addresses: the path and the query of a resource.
-/
namespace WebService.Request

/-- A path and query without the fragment behind it. -/
def withoutFragment (cs : List Char) : List Char := cs.takeWhile (· ≠ '#')

/-- The part of an address after its scheme, if it has one. -/
def afterScheme? : List Char → Option (List Char)
  | [] => none
  | ':' :: rest => Text.after? ['/', '/'] rest
  | c :: rest => if c = '/' || c = '?' || c = '#' then none else afterScheme? rest

/-- The target that an address has: its path and query, which begins with a slash unless it is an
asterisk. An address that is only an authority has an empty target. -/
def targetOf (address : String) : String :=
  let cs := address.toList
  match cs with
  | '/' :: _ => String.ofList (withoutFragment cs)
  | ['*'] => "*"
  | _ =>
    match afterScheme? cs with
    | none => ""
    | some rest =>
      match withoutFragment (rest.dropWhile fun c => c ≠ '/' && c ≠ '?' && c ≠ '#') with
      | '/' :: path => String.ofList ('/' :: path)
      | path => String.ofList ('/' :: path)

end WebService.Request
