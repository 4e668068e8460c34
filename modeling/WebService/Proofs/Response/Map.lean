import WebService.Proofs.Response.Unique

/-!
The headers of a response as a map from names to values, in the order in which the names came in.
Setting and removing a header only touch the first of a name; that there is no second follows from
how responses are made and changed.
-/
namespace WebService.Response

variable {r s : Response} {steps : List Step} {n name other old v value : String}
  {before behind headers rest : List (String × String)}

/-! The first header of a name -/

theorem sameName_of_not_mem (h : Header.lowered name ∉ namesOf headers) :
    ∀ header ∈ headers, Header.sameName header.1 name = false := by
  intro header hmem
  rw [Bool.eq_false_iff, ne_eq, Header.sameName_iff]
  intro hname
  exact h (hname ▸ List.mem_map_of_mem hmem)

/-- A header that is there is the first of its name somewhere. -/
theorem exists_first_of_mem (h : Header.lowered name ∈ namesOf headers) :
    ∃ before n v behind, headers = before ++ (n, v) :: behind ∧
      Header.lowered name ∉ namesOf before ∧ Header.sameName n name = true := by
  obtain ⟨names, others, hnames, hnew⟩ := List.eq_append_cons_of_mem h
  obtain ⟨before, rest, rfl, rfl, hrest⟩ := List.map_eq_append_iff.mp hnames
  obtain ⟨⟨n, v⟩, behind, rfl, hn, -⟩ := List.map_eq_cons_iff.mp hrest
  exact ⟨before, n, v, behind, rfl, hnew, Header.sameName_iff.mpr hn⟩

theorem setIn_append (h : Header.lowered name ∉ namesOf before) :
    setIn name value (before ++ rest) = before ++ setIn name value rest := by
  induction before with
  | nil => rfl
  | cons header before ih =>
    have hn := sameName_of_not_mem h header List.mem_cons_self
    rw [List.cons_append, setIn, if_neg (by simp [hn]),
      ih fun hmem => h (List.mem_cons_of_mem _ hmem)]
    rfl

theorem removeFrom_append (h : Header.lowered name ∉ namesOf before) :
    removeFrom name (before ++ rest) = before ++ removeFrom name rest := by
  induction before with
  | nil => rfl
  | cons header before ih =>
    have hn := sameName_of_not_mem h header List.mem_cons_self
    rw [List.cons_append, removeFrom, if_neg (by simp [hn]),
      ih fun hmem => h (List.mem_cons_of_mem _ hmem)]
    rfl

/-- A header that is set for the first time goes last. -/
theorem setIn_of_not_mem (h : Header.lowered name ∉ namesOf headers) :
    setIn name value headers = headers ++ [(name, value)] := by
  have happend : setIn name value (headers ++ []) = headers ++ setIn name value [] := setIn_append h
  rwa [List.append_nil] at happend

/-- A header that is set again keeps its place and the spelling of its name. -/
theorem setIn_append_cons (h : Header.lowered name ∉ namesOf before)
    (hn : Header.sameName n name = true) :
    setIn name value (before ++ (n, v) :: behind) = before ++ (n, value) :: behind := by
  rw [setIn_append h, setIn, if_pos hn]

theorem removeFrom_of_not_mem (h : Header.lowered name ∉ namesOf headers) :
    removeFrom name headers = headers := by
  have happend : removeFrom name (headers ++ []) = headers ++ removeFrom name [] :=
    removeFrom_append h
  rwa [removeFrom, List.append_nil] at happend

theorem removeFrom_append_cons (h : Header.lowered name ∉ namesOf before)
    (hn : Header.sameName n name = true) :
    removeFrom name (before ++ (n, v) :: behind) = before ++ behind := by
  rw [removeFrom_append h, removeFrom, if_pos hn]

theorem removeFrom_eq_eraseP :
    removeFrom name headers = headers.eraseP fun (n, _) => Header.sameName n name := by
  induction headers with
  | nil => rfl
  | cons header rest ih =>
    rw [removeFrom, List.eraseP_cons, ih]
    simp only [Bool.cond_eq_ite]

/-- Taking a header off is finding it and removing it. -/
theorem takeHeader_eq (r : Response) (name : String) :
    r.takeHeader name = (r.header? name, r.removeHeader name) := by
  rw [takeHeader, header?, removeHeader, removeFrom_eq_eraseP, List.eraseP_eq_eraseIdx,
    List.find?_eq_bind_findIdx?_getElem?]
  cases r.headers.findIdx? _ with
  | none => rfl
  | some i => rfl

/-! Headers of which none is there twice -/

theorem HeadersApart.pairwise (h : r.HeadersApart) :
    r.headers.Pairwise fun a b => Header.sameName a.1 b.1 = false := by
  refine (List.pairwise_map.mp h).imp ?_
  intro a b hne
  rwa [Bool.eq_false_iff, ne_eq, Header.sameName_iff]

/-- Behind the first header of a name there is no other. -/
theorem not_mem_behind (hapart : (namesOf (before ++ (n, v) :: behind)).Nodup)
    (hn : Header.sameName n name = true) : Header.lowered name ∉ namesOf behind := by
  have hnames : namesOf (before ++ (n, v) :: behind) =
      namesOf before ++ Header.lowered name :: namesOf behind := by
    rw [← Header.sameName_iff.mp hn]
    exact List.map_append
  rw [hnames] at hapart
  exact (List.nodup_cons.mp (List.nodup_append.mp hapart).2.1).1

theorem setIn_eq_map (hapart : (namesOf headers).Nodup)
    (hmem : Header.lowered name ∈ namesOf headers) :
    setIn name value headers = headers.map fun header =>
      (header.1, if Header.sameName header.1 name then value else header.2) := by
  obtain ⟨before, n, v, behind, rfl, hbefore, hn⟩ := exists_first_of_mem hmem
  have hsame : ∀ others : List (String × String), Header.lowered name ∉ namesOf others →
      others.map (fun header =>
        (header.1, if Header.sameName header.1 name then value else header.2)) = others := by
    intro others hothers
    refine (List.map_congr_left fun header hheader => ?_).trans (List.map_id _)
    simp [sameName_of_not_mem hothers header hheader]
  rw [setIn_append_cons hbefore hn, List.map_append, List.map_cons, if_pos hn, hsame before hbefore,
    hsame behind (not_mem_behind hapart hn)]

theorem removeFrom_eq_filter (hapart : (namesOf headers).Nodup) :
    removeFrom name headers = headers.filter fun header => !Header.sameName header.1 name := by
  have hsame : ∀ others : List (String × String), Header.lowered name ∉ namesOf others →
      others.filter (fun header => !Header.sameName header.1 name) = others := by
    intro others hothers
    refine List.filter_eq_self.mpr fun header hheader => ?_
    simp [sameName_of_not_mem hothers header hheader]
  by_cases hmem : Header.lowered name ∈ namesOf headers
  · obtain ⟨before, n, v, behind, rfl, hbefore, hn⟩ := exists_first_of_mem hmem
    have hdrop : ((n, v) :: behind).filter (fun header => !Header.sameName header.1 name) =
        behind.filter fun header => !Header.sameName header.1 name :=
      List.filter_cons_of_neg (by simp [hn])
    rw [removeFrom_append_cons hbefore hn, List.filter_append, hdrop, hsame before hbefore,
      hsame behind (not_mem_behind hapart hn)]
  · rw [removeFrom_of_not_mem hmem, hsame headers hmem]

/-- What is taken off cannot be found any more. -/
theorem header?_removeHeader_self (h : r.HeadersApart) :
    (r.removeHeader name).header? name = none := by
  by_contra hfound
  rw [← ne_eq, ← mem_namesOf_iff] at hfound
  have hnames : namesOf (r.removeHeader name).headers =
      (namesOf r.headers).erase (Header.lowered name) := namesOf_removeFrom
  rw [hnames] at hfound
  exact h.not_mem_erase hfound

/-! Finding, setting and taking off -/

theorem header?_congr (h : Header.sameName name other = true) :
    r.header? name = r.header? other := by
  have hsame : ∀ n, Header.sameName n name = Header.sameName n other := by
    intro n
    rw [Header.sameName_comm n name, Header.sameName_congr h, Header.sameName_comm other n]
  simp only [header?, hsame]

theorem header?_setHeader : (r.setHeader name value).header? other =
    if Header.sameName name other then some value else r.header? other := by
  split
  · rename_i hsame
    rw [← header?_congr hsame]
    exact header?_setHeader_self
  · rename_i hne
    exact header?_setHeader_of_ne (Bool.eq_false_iff.mpr hne)

theorem setHeader_eq (h : r.HeadersApart) : r.setHeader name value =
    { r with headers :=
        if r.header? name = none then r.headers ++ [(name, value)]
        else r.headers.map fun header =>
          (header.1, if Header.sameName header.1 name then value else header.2) } := by
  rw [setHeader]
  split
  · rename_i hnone
    have hnew : Header.lowered name ∉ namesOf r.headers := by
      rw [mem_namesOf_iff, hnone]
      exact fun hne => hne rfl
    rw [setIn_of_not_mem hnew]
  · rename_i hfound
    rw [setIn_eq_map h (mem_namesOf_iff.mpr hfound)]

/-! Setting several headers -/

theorem setIn_setIn : setIn name value (setIn name old headers) = setIn name value headers := by
  by_cases hmem : Header.lowered name ∈ namesOf headers
  · obtain ⟨before, n, v, behind, rfl, hbefore, hn⟩ := exists_first_of_mem hmem
    simp only [setIn_append_cons hbefore hn]
  · rw [setIn_of_not_mem hmem, setIn_of_not_mem hmem]
    exact setIn_append_cons hmem (Header.sameName_self name)

/-- Two headers may be set in either order if one of them is there already. -/
theorem setIn_comm (hne : Header.sameName name other = false)
    (hmem : Header.lowered name ∈ namesOf headers) :
    setIn name value (setIn other old headers) = setIn other old (setIn name value headers) := by
  induction headers with
  | nil => cases hmem
  | cons header rest ih =>
    obtain ⟨n, v⟩ := header
    by_cases hn : Header.sameName n name = true
    · have hother : Header.sameName n other = false := (Header.sameName_congr hn).trans hne
      simp [setIn, hn, hother]
    · by_cases hother : Header.sameName n other = true
      · simp [setIn, hn, hother]
      · have hrest : Header.lowered name ∈ namesOf rest := by
          refine (List.mem_cons.mp hmem).resolve_left fun he => hn ?_
          exact Header.sameName_iff.mpr he.symm
        simp [setIn, hn, hother, ih hrest]

/-- The response with headers set one after the other. -/
def setHeaders (headers : List (String × String)) (r : Response) : Response :=
  headers.foldl (fun r header => r.setHeader header.1 header.2) r

theorem setHeaders_cons (header : String × String) (headers : List (String × String)) :
    setHeaders (header :: headers) r = setHeaders headers (r.setHeader header.1 header.2) := rfl

/-- A header that is there may be set before others as well as after them. -/
theorem setHeader_setHeaders (hnew : Header.lowered name ∉ namesOf headers)
    (hmem : Header.lowered name ∈ namesOf r.headers) :
    (setHeaders headers r).setHeader name value = setHeaders headers (r.setHeader name value) := by
  induction headers generalizing r with
  | nil => rfl
  | cons header rest ih =>
    have hne : Header.sameName name header.1 = false := by
      rw [Header.sameName_comm]
      exact sameName_of_not_mem hnew header List.mem_cons_self
    have hrest : Header.lowered name ∉ namesOf rest := fun h => hnew (List.mem_cons_of_mem _ h)
    have hstill : Header.lowered name ∈ namesOf (r.setHeader header.1 header.2).headers := by
      rw [mem_namesOf_iff, header?_setHeader_of_ne (by rwa [Header.sameName_comm])]
      exact mem_namesOf_iff.mp hmem
    have hcomm : (r.setHeader header.1 header.2).setHeader name value =
        (r.setHeader name value).setHeader header.1 header.2 := by
      simp only [setHeader, setIn_comm hne hmem]
    rw [setHeaders_cons, setHeaders_cons, ih hrest hstill, hcomm]

theorem namesOf_eq_map : namesOf headers = (headers.map (·.1)).map Header.lowered := by
  rw [List.map_map]
  rfl

/-- Of headers that are set one after the other, and then all set again, the first values leave no
trace. -/
theorem setHeaders_setHeaders {first second : List (String × String)}
    (hnames : first.map (·.1) = second.map (·.1)) (hapart : (namesOf second).Nodup) :
    setHeaders second (setHeaders first r) = setHeaders second r := by
  induction second generalizing first r with
  | nil =>
    rw [List.map_nil, List.map_eq_nil_iff] at hnames
    rw [hnames]
    rfl
  | cons header second ih =>
    obtain ⟨⟨name, old⟩, first, rfl, rfl, hfirst⟩ := List.map_eq_cons_iff.mp hnames
    rw [namesOf_cons, List.nodup_cons] at hapart
    have hnew : Header.lowered header.1 ∉ namesOf first := by
      rw [namesOf_eq_map, hfirst, ← namesOf_eq_map]
      exact hapart.1
    have hthere : Header.lowered header.1 ∈ namesOf (r.setHeader header.1 old).headers := by
      rw [mem_namesOf_iff, header?_setHeader_self]
      exact Option.some_ne_none old
    have hset : (r.setHeader header.1 old).setHeader header.1 header.2 =
        r.setHeader header.1 header.2 := by
      simp only [setHeader, setIn_setIn]
    -- The new value is carried back over the other headers, to where the old one was set.
    rw [setHeaders_cons, setHeaders_cons, setHeaders_cons, setHeader_setHeaders hnew hthere, hset,
      ih hfirst hapart.2]

/-- However a response came about, no header of it is there twice. A header that is set is found
under its name in any case and all others are found as before: it stands in the place of the one
that it replaces, in the spelling that this one had, or else last. A header that is taken off is the
one that was found, is not found any more, and leaves all others in their order. -/
theorem headers_form_ordered_map (r s : Response) (steps : List Step) (hr : Made r)
    (hs : r.after steps = .ok s) :
    (s.headers.Pairwise fun a b => Header.sameName a.1 b.1 = false) ∧
    (∀ name value,
      (∀ other, (s.setHeader name value).header? other =
        if Header.sameName name other then some value else s.header? other) ∧
      s.setHeader name value =
        { s with headers :=
            if s.header? name = none then s.headers ++ [(name, value)]
            else s.headers.map fun header =>
              (header.1, if Header.sameName header.1 name then value else header.2) }) ∧
    ∀ name,
      (s.takeHeader name).1 = s.header? name ∧ (s.takeHeader name).2.header? name = none ∧
      (s.takeHeader name).2 =
        { s with headers := s.headers.filter fun header => !Header.sameName header.1 name } := by
  have hapart : s.HeadersApart := after_headersApart hs hr.headersApart
  refine ⟨hapart.pairwise, ?_, fun name => ?_⟩
  · exact fun name value => ⟨fun other => header?_setHeader, setHeader_eq hapart⟩
  rw [takeHeader_eq]
  refine ⟨rfl, header?_removeHeader_self hapart, ?_⟩
  rw [removeHeader, removeFrom_eq_filter hapart]

/-- Headers of a handler and of a policy, set, found and taken off in several spellings. -/
theorem headers_form_ordered_map_of_policy : ∃ s : Response,
    (ok "hi").after [.header "X-Part" "1", .policy Cors.permissive (some "https://a.example"),
      .header "x-part" "2", .noHeader "access-control-allow-methods"] = .ok s ∧
    (s.setHeader "VARY" "Accept").header? "Vary" = some "Accept" ∧
    (s.takeHeader "X-PART").1 = some "2" ∧
    (s.takeHeader "X-PART").2.headers.map (·.1) =
      ["Access-Control-Allow-Origin", "Access-Control-Allow-Headers"] := by
  refine ⟨_, rfl, ?_⟩
  obtain ⟨-, hset, htake⟩ := headers_form_ordered_map (ok "hi") _ [.header "X-Part" "1",
    .policy Cors.permissive (some "https://a.example"), .header "x-part" "2",
    .noHeader "access-control-allow-methods"] (.ok "hi") rfl
  obtain ⟨hvalue, -, hrest⟩ := htake "X-PART"
  refine ⟨(hset "VARY" "Accept").1 "Vary", hvalue, ?_⟩
  rw [hrest]
  decide

end WebService.Response
