import WebService.Json.Document
import WebService.Request.Argument

/-!
Lists in pages: which part of a list a query asks for, and how many parts there are.
-/
namespace WebService.Paging

/-- How many items fill whole pages and how many are left. -/
structure PageCount where
  fullPages : Nat
  remainder : Nat
deriving DecidableEq, Repr, Inhabited

namespace PageCount

/-- All pages, of which the last may not be full. -/
def pages (c : PageCount) : Nat := if 0 < c.remainder then c.fullPages + 1 else c.fullPages

def toDocument (c : PageCount) : Json.Document :=
  .record [("fullPages", .ofNat c.fullPages), ("remainder", .ofNat c.remainder),
    ("pages", .ofNat c.pages)]

end PageCount

/-- The arguments that select a page, and what counts without them. -/
structure Browser where
  pageArg : String := "page"
  sizeArg : String := "size"
  infoArg : String := "pages"
  defaultPage : Nat := 0
  defaultSize : Nat := 10
deriving DecidableEq, Repr, Inhabited

namespace Browser

def number (r : Request) (key : String) (default : Nat) : Outcome Nat := do
  return (← r.readArg "page number" key fun s => Number.readUInt64 s.toList).getD default

def page (b : Browser) (r : Request) : Outcome Nat := number r b.pageArg b.defaultPage

/-- The size of a page, which is not zero. -/
def size (b : Browser) (r : Request) : Outcome Nat := do
  let size ← number r b.sizeArg b.defaultSize
  if size = 0 then .reject "Page size must be positive." else return size

/-- Whether the count of pages is asked for. -/
def info (b : Browser) (r : Request) : Bool := r.hasArg b.infoArg

/-- Whether the query has any of the arguments. -/
def wanted (b : Browser) (r : Request) : Bool :=
  r.hasArg b.pageArg || r.hasArg b.sizeArg || b.info r

variable {α : Type}

/-- The items before the page, of which there are never more than can be counted. -/
def skipped (page size : Nat) : Nat := min (page * size) Number.maxUInt64

def browse (b : Browser) (r : Request) (items : List α) : Outcome (List α) := do
  let size ← b.size r
  let page ← b.page r
  return (items.drop (skipped page size)).take size

def pages (b : Browser) (r : Request) (items : List α) : Outcome PageCount := do
  let size ← b.size r
  return ⟨items.length / size, items.length % size⟩

/-- The page or the count of pages, whichever is asked for. -/
def respond (b : Browser) (r : Request) (items : List Json.Document) : Outcome Response := do
  if b.info r then .ofError (Response.json (← b.pages r items).toDocument)
  else .ofError (Response.json (.list (← b.browse r items)))

end Browser

end WebService.Paging
