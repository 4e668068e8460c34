import WebService.Response.Basic

/-!
Setting a header: what is found under each name afterwards, and what stays as it was. Names are the
same in any case.
-/
namespace WebService

theorem Header.sameName_iff {a b : String} :
    Header.sameName a b = true ↔ lowered a = lowered b := by
  simp [Header.sameName]

theorem Header.sameName_self (a : String) : Header.sameName a a = true := by
  simp [Header.sameName_iff]

theorem Header.sameName_comm (a b : String) : Header.sameName a b = Header.sameName b a := by
  simp only [Header.sameName, eq_comm]

/-- A name is the same as two others only if these are the same. -/
theorem Header.sameName_congr {a b c : String} (h : Header.sameName a b = true) :
    Header.sameName a c = Header.sameName b c := by
  simp only [Header.sameName, Header.sameName_iff.mp h]

namespace Response

variable {r s t : Response} {names : List String} {name other value : String}
  {headers : List (String × String)}

theorem find?_setIn_self :
    ((setIn name value headers).find? fun (n, _) => Header.sameName n name).map (·.2) =
      some value := by
  induction headers with
  | nil => simp [setIn, Header.sameName_self]
  | cons entry rest ih =>
    obtain ⟨n, v⟩ := entry
    by_cases hn : Header.sameName n name = true
    · simp [setIn, hn]
    · simpa [setIn, hn] using ih

theorem find?_setIn_of_ne (h : Header.sameName name other = false) :
    (setIn name value headers).find? (fun (n, _) => Header.sameName n other) =
      headers.find? fun (n, _) => Header.sameName n other := by
  induction headers with
  | nil => simp [setIn, h]
  | cons entry rest ih =>
    obtain ⟨n, v⟩ := entry
    by_cases hn : Header.sameName n name = true
    · have hne : Header.sameName n other = false := (Header.sameName_congr hn).trans h
      simp [setIn, hn, hne]
    · simp only [setIn, hn, Bool.false_eq_true, if_false, List.find?_cons, ih]

theorem find?_removeFrom_of_ne (h : Header.sameName name other = false) :
    (removeFrom name headers).find? (fun (n, _) => Header.sameName n other) =
      headers.find? fun (n, _) => Header.sameName n other := by
  induction headers with
  | nil => rfl
  | cons entry rest ih =>
    obtain ⟨n, v⟩ := entry
    by_cases hn : Header.sameName n name = true
    · have hne : Header.sameName n other = false := (Header.sameName_congr hn).trans h
      simp [removeFrom, hn, hne]
    · simp only [removeFrom, hn, Bool.false_eq_true, if_false, List.find?_cons, ih]

/-- Setting a header keeps every selection by name that leaves it out. -/
theorem filter_setIn (p : String → Bool) (hp : ∀ n, Header.sameName n name = true → p n = false) :
    (setIn name value headers).filter (fun (n, _) => p n) =
      headers.filter fun (n, _) => p n := by
  induction headers with
  | nil => simp [setIn, hp name (Header.sameName_self name)]
  | cons entry rest ih =>
    obtain ⟨n, v⟩ := entry
    by_cases hn : Header.sameName n name = true
    · simp [setIn, hn, hp n hn]
    · simp only [setIn, hn, Bool.false_eq_true, if_false, List.filter_cons, ih]

theorem header?_setHeader_self : (r.setHeader name value).header? name = some value :=
  find?_setIn_self

theorem header?_setHeader_of_ne (h : Header.sameName name other = false) :
    (r.setHeader name value).header? other = r.header? other := by
  simp only [header?, setHeader, find?_setIn_of_ne h]

theorem header?_removeHeader_of_ne (h : Header.sameName name other = false) :
    (r.removeHeader name).header? other = r.header? other := by
  simp only [header?, removeHeader, find?_removeFrom_of_ne h]

/-! Responses that differ in some headers only -/

/-- Whether a name is among `names`. -/
def isNamed (names : List String) (name : String) : Bool :=
  names.any fun n => Header.sameName name n

/-- The headers whose names are not among `names`, in their order. -/
def headersBut (names : List String) (r : Response) : List (String × String) :=
  r.headers.filter fun (n, _) => !isNamed names n

/-- The responses differ at most in the headers with the given names. -/
structure AgreesBut (names : List String) (r s : Response) : Prop where
  kind : r.kind = s.kind
  status : r.status = s.status
  range : r.range = s.range
  mimetype : r.mimetype = s.mimetype
  charset : r.charset = s.charset
  body : r.body = s.body
  headers : r.headersBut names = s.headersBut names

theorem isNamed_congr (h : Header.sameName name other = true) :
    isNamed names name = isNamed names other := by
  simp only [isNamed, Header.sameName_congr h]

theorem isNamed_of_mem (h : name ∈ names) : isNamed names name = true := by
  simp only [isNamed, List.any_eq_true]
  exact ⟨name, h, Header.sameName_self name⟩

theorem AgreesBut.refl (names : List String) (r : Response) : r.AgreesBut names r :=
  ⟨rfl, rfl, rfl, rfl, rfl, rfl, rfl⟩

/-- Headers under other names are found as before. -/
theorem AgreesBut.header? (h : r.AgreesBut names s) (hn : isNamed names name = false) :
    r.header? name = s.header? name := by
  have hfind : ∀ q : Response, q.header? name =
      ((q.headersBut names).find? fun (n, _) => Header.sameName n name).map (·.2) := by
    intro q
    simp only [Response.header?, headersBut, List.find?_filter]
    congr 2
    funext entry
    by_cases he : Header.sameName entry.1 name = true
    · simp [he, isNamed_congr he, hn]
    · simp [he]
  rw [hfind r, hfind s, h.headers]

theorem AgreesBut.contentType (h : r.AgreesBut names s) : r.contentType = s.contentType := by
  simp only [Response.contentType, h.mimetype, h.charset]

/-- Headers with the given names may be set freely. -/
theorem AgreesBut.setHeader (h : s.AgreesBut names r) (name value : String) (hn : name ∈ names) :
    (s.setHeader name value).AgreesBut names r := by
  have hset : (s.setHeader name value).headersBut names = s.headersBut names := by
    apply filter_setIn (fun n => !isNamed names n)
    intro n hname
    simp [isNamed_congr hname, isNamed_of_mem hn]
  exact ⟨h.kind, h.status, h.range, h.mimetype, h.charset, h.body, hset.trans h.headers⟩

end Response

end WebService
