/-!
Cutting lists at separators and replacing parts of them.
-/
namespace WebService.Text

variable {α : Type}

/-- The parts between the elements that satisfy `p`, one more than there are such elements. -/
def splitOn (p : α → Bool) : List α → List (List α)
  | [] => [[]]
  | c :: cs =>
    if p c then [] :: splitOn p cs
    else match splitOn p cs with
      | [] => [[c]]
      | part :: parts => (c :: part) :: parts

/-- What stands before and after the first element that satisfies `p`. -/
def splitFirst? (p : α → Bool) : List α → Option (List α × List α)
  | [] => none
  | c :: cs =>
    if p c then some ([], cs)
    else (splitFirst? p cs).map fun (before, after) => (c :: before, after)

/-- What follows `lead` at the start of a list. -/
def after? [BEq α] (lead : List α) (cs : List α) : Option (List α) :=
  if lead.isPrefixOf cs then some (cs.drop lead.length) else none

/-- What follows the first occurrence of `lead`. -/
def findAfter? [BEq α] (lead : List α) : List α → Option (List α)
  | [] => if lead.isEmpty then some [] else none
  | c :: cs =>
    if lead.isPrefixOf (c :: cs) then some ((c :: cs).drop lead.length) else findAfter? lead cs

/-- Replaces each occurrence of `old`, from the left; `skip` elements belong to the last one. -/
def replaceFrom [BEq α] (old new : List α) (skip : Nat) : List α → List α
  | [] => []
  | c :: cs =>
    match skip with
    | skip + 1 => replaceFrom old new skip cs
    | 0 =>
      if old.isPrefixOf (c :: cs) then new ++ replaceFrom old new (old.length - 1) cs
      else c :: replaceFrom old new 0 cs

/-- Every occurrence of a nonempty list replaced, from the left and without overlaps. -/
def replaceAll [BEq α] (old new cs : List α) : List α := replaceFrom old new 0 cs

/-- The items with a separator between each two. -/
def joinWith (separator : List α) : List (List α) → List α
  | [] => []
  | [item] => item
  | item :: items => item ++ separator ++ joinWith separator items

end WebService.Text
