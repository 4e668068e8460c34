import WebService.Proofs.Route.First

/-!
`HEAD` on a path: the first route that is for it or for `GET` serves it. A route for `HEAD` itself
is therefore found only if no route for `GET` stands before it.
-/
namespace WebService.Route

variable {α : Type} {method m : Method} {path : String} {strict : Bool} {allowed : List Method}
  {entry : Entry α} {entries before behind : List (Entry α)} {t : Table α}

/-- Whether a route fits a path and names a method among its own. -/
def Entry.Offers (entry : Entry α) (method : Method) (path : String) (strict : Bool) : Prop :=
  entry.Fits path strict ∧ method ∈ entry.methods

theorem Entry.suits_get_iff : entry.Suits .get path strict ↔ entry.Offers .get path strict := by
  have hne : Method.get ≠ .head := by decide
  simp [Suits, Offers, hne]

theorem Entry.suits_head_iff : entry.Suits .head path strict ↔
    entry.Offers .head path strict ∨ entry.Offers .get path strict := by
  simp only [Suits, Offers, true_and, and_or_left]

namespace Table

/-- Searches for methods that the same routes serve come to the same. -/
theorem search_congr
    (h : ∀ entry ∈ entries, entry.serves method path strict = entry.serves m path strict) :
    search method path strict allowed entries = search m path strict allowed entries := by
  induction entries generalizing allowed with
  | nil => rfl
  | cons entry rest ih =>
    have hentry := h entry List.mem_cons_self
    have hrest : ∀ allowed, search method path strict allowed rest =
        search m path strict allowed rest := fun _ => ih fun e he => h e (List.mem_cons_of_mem _ he)
    cases hv : entry.pattern.match? path strict with
    | none => simp only [search, hv, hrest]
    | some vars =>
      have haccepts : entry.accepts method = entry.accepts m := by
        simpa [Entry.serves, hv] using hentry
      simp only [search, hv, hrest, haccepts]

/-- Among routes none of which is for `HEAD` itself, those for `GET` serve it. -/
theorem search_head_eq_search_get (h : ∀ entry ∈ entries, ¬ entry.Offers .head path strict) :
    search .head path strict allowed entries = search .get path strict allowed entries := by
  apply search_congr
  intro entry he
  rw [Bool.eq_iff_iff, Entry.serves_iff_suits, Entry.serves_iff_suits, Entry.suits_head_iff,
    Entry.suits_get_iff]
  exact or_iff_right (h entry he)

theorem lookup_head_of_first (hsplit : t.entries = before ++ entry :: behind)
    (hentry : entry.Offers .head path strict)
    (hhead : ∀ e ∈ before, ¬ e.Offers .head path strict)
    (hget : ∀ e ∈ before, ¬ e.Offers .get path strict) :
    ∃ vars, entry.pattern.match? path strict = some vars ∧
      t.lookup .head path strict = .route entry vars := by
  obtain ⟨vars, hvars⟩ := hentry.1
  have hserves : entry.serves .head path strict = true :=
    Entry.serves_iff_suits.mpr (Entry.suits_head_iff.mpr (Or.inl hentry))
  have hbefore : ∀ e ∈ before, (!e.serves .head path strict) = true := by
    intro e he
    have hnot : ¬ e.Suits .head path strict := by
      rw [Entry.suits_head_iff]
      exact not_or.mpr ⟨hhead e he, hget e he⟩
    simpa [← Entry.serves_iff_suits] using hnot
  have hfirst : t.entries.find? (·.serves .head path strict) = some entry :=
    List.find?_eq_some_iff_append.mpr ⟨hserves, before, behind, hsplit, hbefore⟩
  exact ⟨vars, hvars, search_eq_route_iff.mpr ⟨hfirst, hvars⟩⟩

theorem lookup_head_of_get_before (hsplit : t.entries = before ++ behind)
    (hhead : ∀ e ∈ before, ¬ e.Offers .head path strict)
    (hget : ∃ e ∈ before, e.Offers .get path strict) :
    ∃ first ∈ before, ∃ vars, t.lookup .head path strict = .route first vars ∧
      t.lookup .get path strict = .route first vars := by
  have hserves : Serves before .get path strict := by
    obtain ⟨e, he, hoffers⟩ := hget
    exact serves_iff_suits.mpr ⟨e, he, Entry.suits_get_iff.mpr hoffers⟩
  obtain ⟨first, vars, hfound⟩ : ∃ first vars,
      search .get path strict [] before = .route first vars := search_of_serves hserves
  refine ⟨first, (search_eq_route hfound).1, vars, ?_, ?_⟩
  · rw [lookup, hsplit]
    exact search_append behind ((search_head_eq_search_get hhead).trans hfound)
  · rw [lookup, hsplit]
    exact search_append behind hfound

/-- The first route for `HEAD` that fits a path is found exactly if no route for `GET` that fits
stands before it. Behind one, and where no route is for `HEAD`, it comes to the same as `GET`. -/
theorem lookup_head_outcome (t : Table α) (path : String) (strict : Bool) :
    (∀ before entry behind, t.entries = before ++ entry :: behind →
      entry.Offers .head path strict → (∀ e ∈ before, ¬ e.Offers .head path strict) →
      ((∃ vars, entry.pattern.match? path strict = some vars ∧
          t.lookup .head path strict = .route entry vars) ↔
        ∀ e ∈ before, ¬ e.Offers .get path strict) ∧
      ((∃ e ∈ before, e.Offers .get path strict) →
        ∃ first ∈ before, ∃ vars, t.lookup .head path strict = .route first vars ∧
          t.lookup .get path strict = .route first vars)) ∧
    ((∀ entry ∈ t.entries, ¬ entry.Offers .head path strict) →
      t.lookup .head path strict = t.lookup .get path strict) := by
  constructor
  · intro before entry behind hsplit hentry hhead
    refine ⟨⟨?_, lookup_head_of_first hsplit hentry hhead⟩,
      lookup_head_of_get_before hsplit hhead⟩
    -- With a route for `GET` before, one of those before is found, and none of them is for `HEAD`.
    rintro ⟨vars, -, hfound⟩ e he hget
    obtain ⟨first, hfirst, captured, hother, -⟩ :=
      lookup_head_of_get_before hsplit hhead ⟨e, he, hget⟩
    cases hfound.symm.trans hother
    exact hhead entry hfirst hentry
  · exact search_head_eq_search_get

/-- A route for `HEAD` that stands before one for `GET` on the same path. -/
theorem lookup_head_outcome_of_head_before_get :
    let summary : Entry String := ⟨[.head], ⟨"/x", [.literal "x"], false⟩, "summary"⟩
    let page : Entry String := ⟨[.get], ⟨"/<name>", [.placeholder "name" .text], false⟩, "page"⟩
    let t : Table String := ⟨[summary, page]⟩
    summary.Offers .head "/x" false ∧
      (∃ vars, summary.pattern.match? "/x" false = some vars ∧
        t.lookup .head "/x" false = .route summary vars) ∧
      t.lookup .head "/y" false = t.lookup .get "/y" false := by
  intro summary page t
  have hsummary : summary.Offers .head "/x" false := ⟨⟨[], rfl⟩, by decide⟩
  have hother : ∀ entry ∈ t.entries, ¬ entry.Offers .head "/y" false := by
    rintro entry he ⟨⟨vars, hv⟩, hm⟩
    rcases List.mem_cons.mp he with rfl | he
    · cases hv
    · obtain rfl := List.mem_singleton.mp he
      exact absurd hm (by decide)
  obtain ⟨hfirst, -⟩ := lookup_head_outcome t "/x" false
  obtain ⟨-, hsame⟩ := lookup_head_outcome t "/y" false
  have hfound := (hfirst [] summary [page] rfl hsummary (List.forall_mem_nil _)).1.mpr
    (List.forall_mem_nil _)
  exact ⟨hsummary, hfound, hsame hother⟩

/-- A route for `HEAD` that is added behind one for `GET` on the same path is never found. -/
theorem head_behind_get_is_passed_over :
    let page : Entry String := ⟨[.get], ⟨"/x", [.literal "x"], false⟩, "page"⟩
    let summary : Entry String := ⟨[.head], ⟨"/x", [.literal "x"], false⟩, "summary"⟩
    let t : Table String := ⟨[page, summary]⟩
    (do (← empty.add "GET" "/x" "page").add "HEAD" "/x" "summary") = .ok t ∧
      summary.Offers .head "/x" false ∧ ¬ page.Offers .head "/x" false ∧
      t.lookup .head "/x" false = .route page [] ∧ page ≠ summary := by
  intro page summary t
  have hoffers : summary.Offers .head "/x" false := ⟨⟨[], rfl⟩, by decide⟩
  refine ⟨rfl, hoffers, ?_, rfl, ?_⟩
  · rintro ⟨-, hm⟩
    exact absurd hm (by decide)
  · intro h
    exact absurd (congrArg Entry.target h) (by decide)

end Table

end WebService.Route
