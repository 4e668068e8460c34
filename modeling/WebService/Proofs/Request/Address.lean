import WebService.Proofs.Request.Arguments
import WebService.Request.Target

/-!
What an address leads to: the path and the query that stand in it, in each of the forms that an
address has. A request has just these.
-/
namespace WebService.Request

/-- A text behind a mark, if there is one. -/
def behind (mark : String) (text : Option String) : String := (text.map (mark ++ ·)).getD ""

/-- Whether a text is a path, with a query behind a question mark, if there is one, and a fragment
behind a number sign, if there is one. -/
def IsSpelled (text path : String) (query : Option String) : Prop :=
  '?' ∉ path.toList ∧ '#' ∉ path.toList ∧ (∀ q, query = some q → '#' ∉ q.toList) ∧
    ∃ fragment, text = path ++ behind "?" query ++ behind "#" fragment

/-- Whether an address has a scheme with `rest` behind it. -/
def HasScheme (address rest : String) : Prop :=
  ∃ scheme : String, (∀ c ∈ scheme.toList, c ∉ [':', '/', '?', '#']) ∧
    address = scheme ++ "://" ++ rest

/-- The path and the query that an address leads to. An authority stands for the root of its host,
with or without a scheme. -/
inductive Locates : String → String → Option String → Prop where
  | rooted {rest path : String} {query : Option String} (h : IsSpelled ("/" ++ rest) path query) :
    Locates ("/" ++ rest) path query
  | asterisk : Locates "*" "*" none
  | absolute {address authority rest name : String} {query : Option String}
      (hscheme : HasScheme address (authority ++ rest))
      (hauthority : ∀ c ∈ authority.toList, c ∉ ['/', '?', '#'])
      (h : IsSpelled rest ("/" ++ name) query) : Locates address ("/" ++ name) query
  | host {address authority rest : String} {query : Option String}
      (hscheme : HasScheme address (authority ++ rest))
      (hauthority : ∀ c ∈ authority.toList, c ∉ ['/', '?', '#'])
      (h : IsSpelled rest "" query) : Locates address "/" query
  | authority {address : String} (hrooted : ∀ rest, address ≠ "/" ++ rest)
      (hasterisk : address ≠ "*") (hscheme : ∀ rest, ¬ HasScheme address rest) :
    Locates address "/" none

variable {address path rest authority : String} {query : Option String} {cs target : List Char}

theorem isSpelled_iff : IsSpelled address path query ↔ '?' ∉ path.toList ∧
    withoutFragment address.toList = (path ++ behind "?" query).toList := by
  have hquery : '#' ∉ (behind "?" query).toList ↔ ∀ q, query = some q → '#' ∉ q.toList := by
    cases query <;> simp [behind]
  have hfragment : (∃ fragment, address = path ++ behind "?" query ++ behind "#" fragment) ↔
      ∃ rest, (rest = [] ∨ ∃ more, rest = '#' :: more) ∧
        address.toList = (path ++ behind "?" query).toList ++ rest := by
    constructor
    · rintro ⟨fragment, rfl⟩
      cases fragment <;> simp [behind]
    · rintro ⟨_, rfl | ⟨more, rfl⟩, h⟩
      · exact ⟨none, String.toList_inj.mp (by simpa [behind] using h)⟩
      · exact ⟨some (String.ofList more), String.toList_inj.mp (by simpa [behind] using h)⟩
  rw [IsSpelled, withoutFragment, Text.takeWhile_ne_eq_iff, hfragment, ← hquery]
  simp only [String.toList_append, List.mem_append, not_or, and_assoc]

theorem exists_isSpelled (text : String) : ∃ path query, IsSpelled text path query := by
  cases h : Text.splitFirst? (· = '?') (withoutFragment text.toList) with
  | none =>
    refine ⟨String.ofList (withoutFragment text.toList), none, isSpelled_iff.mpr ⟨?_, ?_⟩⟩
    · intro hmem
      rw [String.toList_ofList] at hmem
      simpa using Text.splitFirst?_eq_none_iff.mp h _ hmem
    · simp [behind]
  | some parts =>
    obtain ⟨before, after⟩ := parts
    obtain ⟨mark, hmark, hcut, hbefore⟩ := Text.splitFirst?_eq_some_iff.mp h
    obtain rfl : mark = '?' := by simpa using hmark
    refine ⟨String.ofList before, some (String.ofList after), isSpelled_iff.mpr ⟨?_, ?_⟩⟩
    · intro hmem
      rw [String.toList_ofList] at hmem
      simpa using hbefore _ hmem
    · simp [behind, hcut]

theorem splitTarget_behind (hpath : '?' ∉ path.toList) (query : Option String) :
    splitTarget (path ++ behind "?" query) = (if path.isEmpty then "/" else path, query) := by
  cases query with
  | none =>
    have hcut : Text.splitFirst? (· = '?') path.toList = none := by
      refine Text.splitFirst?_eq_none_iff.mpr fun c hc => decide_eq_false ?_
      rintro rfl
      exact hpath hc
    simp [splitTarget, behind, hcut]
  | some query => simpa [behind, String.append_assoc] using splitTarget_append hpath query

theorem afterScheme?_eq_some_iff : afterScheme? cs = some target ↔
    ∃ scheme, (∀ c ∈ scheme, c ∉ [':', '/', '?', '#']) ∧
      cs = scheme ++ ':' :: '/' :: '/' :: target := by
  constructor
  · intro h
    fun_induction afterScheme? cs with
    | case1 => cases h
    | case2 cs =>
      rw [Text.after?_eq_some_iff] at h
      exact ⟨[], List.forall_mem_nil _, by rw [h]; rfl⟩
    | case3 c cs hc hmark => cases h
    | case4 c cs hc hmark ih =>
      obtain ⟨scheme, hscheme, rfl⟩ := ih h
      refine ⟨c :: scheme, List.forall_mem_cons.mpr ⟨?_, hscheme⟩, rfl⟩
      have hcolon : c ≠ ':' := hc
      simpa [hcolon, and_assoc] using hmark
  · rintro ⟨scheme, hscheme, rfl⟩
    induction scheme with
    | nil => exact Text.after?_eq_some_iff.mpr rfl
    | cons c scheme ih =>
      obtain ⟨hc, hscheme⟩ := List.forall_mem_cons.mp hscheme
      rw [← ih hscheme, List.cons_append, afterScheme?]
      · simp_all
      · simp_all

theorem hasScheme_iff : HasScheme address rest ↔
    afterScheme? address.toList = some rest.toList := by
  rw [afterScheme?_eq_some_iff]
  constructor
  · rintro ⟨scheme, hscheme, rfl⟩
    exact ⟨scheme.toList, hscheme, by simp⟩
  · rintro ⟨scheme, hscheme, h⟩
    exact ⟨String.ofList scheme, by simpa using hscheme, String.toList_inj.mp (by simpa using h)⟩

/-- An authority ends where the path behind it begins, or else the query or the fragment. -/
theorem dropWhile_authority (hauthority : ∀ c ∈ authority.toList, c ∉ ['/', '?', '#'])
    (hpath : path = "" ∨ ∃ name, path = "/" ++ name) (h : IsSpelled rest path query) :
    (authority ++ rest).toList.dropWhile (fun c => c ≠ '/' && c ≠ '?' && c ≠ '#') =
      rest.toList := by
  have hrest : rest.toList.dropWhile (fun c => c ≠ '/' && c ≠ '?' && c ≠ '#') = rest.toList := by
    obtain ⟨-, -, -, fragment, rfl⟩ := h
    rcases hpath with rfl | ⟨name, rfl⟩
    · cases query <;> cases fragment <;> simp [behind]
    · simp
  rw [String.toList_append, List.dropWhile_append_of_pos, hrest]
  intro c hc
  simpa [and_assoc] using hauthority c hc

theorem targetOf_rooted (h : IsSpelled ("/" ++ rest) path query) :
    targetOf ("/" ++ rest) = path ++ behind "?" query := by
  have hwhole := (isSpelled_iff.mp h).2
  apply String.toList_inj.mp
  simpa [targetOf] using hwhole

theorem targetOf_of_hasScheme (hscheme : HasScheme address (authority ++ rest))
    (hauthority : ∀ c ∈ authority.toList, c ∉ ['/', '?', '#'])
    (hpath : path = "" ∨ ∃ name, path = "/" ++ name) (h : IsSpelled rest path query) :
    targetOf address = (if path = "" then "/" else path) ++ behind "?" query := by
  have hafter := hasScheme_iff.mp hscheme
  unfold targetOf
  dsimp only
  split
  · rename_i heq
    rw [heq] at hafter
    simp [afterScheme?] at hafter
  · rename_i heq
    rw [heq] at hafter
    simp [afterScheme?] at hafter
  · rw [hafter]
    dsimp only
    rw [dropWhile_authority hauthority hpath h, (isSpelled_iff.mp h).2]
    rcases hpath with rfl | ⟨name, rfl⟩
    · cases query <;> simp [behind]
    · have hslash : ("/" ++ name ++ behind "?" query).toList =
          '/' :: (name ++ behind "?" query).toList := by simp
      rw [hslash, ← hslash]
      simp [String.append_assoc]

theorem targetOf_of_authority (hrooted : ∀ rest, address ≠ "/" ++ rest) (hasterisk : address ≠ "*")
    (hscheme : ∀ rest, ¬ HasScheme address rest) : targetOf address = "" := by
  unfold targetOf
  dsimp only
  split
  · rename_i rest heq
    exact absurd (String.toList_inj.mp (by simpa using heq)) (hrooted (String.ofList rest))
  · rename_i heq
    exact absurd (String.toList_inj.mp heq) hasterisk
  · cases hafter : afterScheme? address.toList with
    | none => rfl
    | some rest =>
      refine absurd (hasScheme_iff.mpr ?_) (hscheme (String.ofList rest))
      rw [hafter, String.toList_ofList]

theorem isEmpty_of_rooted (h : IsSpelled ("/" ++ rest) path query) : path.isEmpty = false := by
  rw [Bool.eq_false_iff, Ne, String.isEmpty_iff]
  rintro rfl
  obtain ⟨-, -, -, fragment, h⟩ := h
  have hcs := congrArg String.toList h
  cases query <;> cases fragment <;> simp [behind] at hcs

/-- Behind a scheme stands an authority, and behind that a path from the root or none. -/
theorem exists_authority (text : String) : ∃ authority rest path query,
    text = authority ++ rest ∧ (∀ c ∈ authority.toList, c ∉ ['/', '?', '#']) ∧
      IsSpelled rest path query ∧ (path = "" ∨ ∃ name, path = "/" ++ name) := by
  let stays (c : Char) : Bool := c ≠ '/' && c ≠ '?' && c ≠ '#'
  let rest := String.ofList (text.toList.dropWhile stays)
  obtain ⟨path, query, h⟩ := exists_isSpelled rest
  refine ⟨String.ofList (text.toList.takeWhile stays), rest, path, query, ?_, ?_, h, ?_⟩
  · apply String.toList_inj.mp
    simp [rest]
  · intro c hc
    rw [String.toList_ofList] at hc
    simpa [stays, and_assoc] using List.all_eq_true.mp List.all_takeWhile c hc
  · obtain ⟨hmark, hsign, -, fragment, hrest⟩ := h
    cases hpath : path.toList with
    | nil => exact Or.inl (String.toList_eq_nil_iff.mp hpath)
    | cons c name =>
      have hhead := List.head?_dropWhile_not stays text.toList
      have hcs : text.toList.dropWhile stays =
          c :: (name ++ (behind "?" query).toList ++ (behind "#" fragment).toList) := by
        simpa [rest, hpath] using congrArg String.toList hrest
      rw [hcs] at hhead
      have hends : stays c = false := hhead
      have hmem : c ∈ path.toList := hpath ▸ List.mem_cons_self
      have hmark : c ≠ '?' := fun hc => hmark (hc ▸ hmem)
      have hsign : c ≠ '#' := fun hc => hsign (hc ▸ hmem)
      have hc : c = '/' := by simpa [stays, hmark, hsign] using hends
      exact Or.inr ⟨String.ofList name, String.toList_inj.mp (by simp [hpath, hc])⟩

/-- Every address leads to a path. -/
theorem exists_locates (address : String) : ∃ path query, Locates address path query := by
  by_cases hrooted : ∃ rest, address = "/" ++ rest
  · obtain ⟨rest, rfl⟩ := hrooted
    obtain ⟨path, query, h⟩ := exists_isSpelled ("/" ++ rest)
    exact ⟨path, query, .rooted h⟩
  by_cases hasterisk : address = "*"
  · exact ⟨"*", none, hasterisk ▸ .asterisk⟩
  by_cases hscheme : ∃ rest, HasScheme address rest
  · obtain ⟨text, hscheme⟩ := hscheme
    obtain ⟨authority, rest, path, query, rfl, hauthority, h, hpath⟩ := exists_authority text
    rcases hpath with rfl | ⟨name, rfl⟩
    · exact ⟨"/", query, .host hscheme hauthority h⟩
    · exact ⟨"/" ++ name, query, .absolute hscheme hauthority h⟩
  · exact ⟨"/", none, .authority (not_exists.mp hrooted) hasterisk (not_exists.mp hscheme)⟩

theorem splitTarget_of_locates (h : Locates address path query) :
    splitTarget (targetOf address) = (path, query) := by
  cases h with
  | rooted h => rw [targetOf_rooted h, splitTarget_behind h.1, isEmpty_of_rooted h]; rfl
  | asterisk => rfl
  | @absolute _ _ _ name _ hscheme hauthority h =>
    have hname : "/" ++ name ≠ "" := by simp
    rw [targetOf_of_hasScheme hscheme hauthority (Or.inr ⟨name, rfl⟩) h, if_neg hname,
      splitTarget_behind h.1, if_neg (by simp)]
  | host hscheme hauthority h =>
    rw [targetOf_of_hasScheme hscheme hauthority (Or.inl rfl) h, if_pos rfl,
      splitTarget_behind (by decide)]
    rfl
  | authority hrooted hasterisk hscheme =>
    rw [targetOf_of_authority hrooted hasterisk hscheme]
    rfl

/-- A target is cut into what its address leads to, and nothing else. -/
theorem locates_iff :
    Locates address path query ↔ splitTarget (targetOf address) = (path, query) := by
  constructor
  · exact splitTarget_of_locates
  · intro h
    obtain ⟨path', query', hlocates⟩ := exists_locates address
    cases h.symm.trans (splitTarget_of_locates hlocates)
    exact hlocates

/-- A host with a query and a fragment, and an authority alone. -/
example : Locates "http://a.example?x=1#y" "/" (some "x=1") ∧ Locates "a.example:80" "/" none :=
  ⟨locates_iff.mpr (by decide), locates_iff.mpr (by decide)⟩

end WebService.Request
