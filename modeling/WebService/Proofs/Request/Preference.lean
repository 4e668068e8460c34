import WebService.Proofs.Number.Order
import WebService.Proofs.Text.Blank
import WebService.Proofs.Text.Split
import WebService.Request.Preference

/-!
Media types and languages by quality. The items of a field come by falling quality, those of one
quality in the order of the field; no item is lost, and none comes twice.
-/
namespace WebService.Request

open Number (Binary single readBinary)

variable {item value parameter : List Char} {parameters items : List (List Char)} {quality : Binary}
  {rated ranked ranked' : List (String × Binary)} {field : String}

/-! Items of a field -/

/-- Whether a parameter gives a quality: `q=` and a number, with white space only around both. -/
def GivesQuality (parameter : List Char) (quality : Binary) : Prop :=
  ∃ number, Text.Trims parameter ('q' :: '=' :: number) ∧ readBinary single number = some quality

/-- The quality that parameters give. The first one to give any counts, and without one it is 1. -/
inductive HasQuality : List (List Char) → Binary → Prop where
  | unsaid : HasQuality [] (.finite false (2 ^ 23) (-23))
  | said {parameter : List Char} {parameters : List (List Char)} {quality : Binary}
      (h : GivesQuality parameter quality) : HasQuality (parameter :: parameters) quality
  | passed {parameter : List Char} {parameters : List (List Char)} {quality : Binary}
      (h : ∀ given, ¬ GivesQuality parameter given) (hrest : HasQuality parameters quality) :
      HasQuality (parameter :: parameters) quality

/-- The values that stand before the parameters of items, with their qualities. Items without a
value are left out. -/
inductive Lists : List (List Char) → List (String × Binary) → Prop where
  | nil : Lists [] []
  | named {item value : List Char} {parameters items : List (List Char)} {name : String}
      {quality : Binary} {rated : List (String × Binary)}
      (hitem : Text.IsCut ';' item (value :: parameters)) (hname : Text.Trims value name.toList)
      (hne : name ≠ "") (hquality : HasQuality parameters quality) (hrest : Lists items rated) :
      Lists (item :: items) ((name, quality) :: rated)
  | nameless {item value : List Char} {parameters items : List (List Char)}
      {rated : List (String × Binary)} (hitem : Text.IsCut ';' item (value :: parameters))
      (hblank : ∀ c ∈ value, Text.isBlank c = true) (hrest : Lists items rated) :
      Lists (item :: items) rated

/-- The quality that a parameter gives, if it gives one. -/
def quality? (parameter : List Char) : Option Binary := do
  readBinary single (← Text.after? ['q', '='] (Text.trim parameter))

theorem givesQuality_iff : GivesQuality parameter quality ↔ quality? parameter = some quality := by
  simp only [GivesQuality, quality?, Text.trims_iff, bind, Option.bind_eq_some_iff,
    Text.after?_eq_some_iff]
  rfl

theorem qualityOf_eq (parameters : List (List Char)) :
    qualityOf parameters = (parameters.findSome? quality?).getD (single.ofInt 1) := rfl

theorem qualityOf_cons (parameter : List Char) (parameters : List (List Char)) :
    qualityOf (parameter :: parameters) = (quality? parameter).getD (qualityOf parameters) := by
  rw [qualityOf_eq, List.findSome?_cons]
  cases quality? parameter <;> rfl

theorem hasQuality_iff : HasQuality parameters quality ↔ qualityOf parameters = quality := by
  constructor
  · intro h
    induction h with
    | unsaid => rfl
    | said hsaid => rw [qualityOf_cons, givesQuality_iff.mp hsaid, Option.getD_some]
    | @passed parameter parameters quality hpassed _ ih =>
      have hnone : quality? parameter = none :=
        Option.eq_none_iff_forall_ne_some.mpr fun given h => hpassed given (givesQuality_iff.mpr h)
      rw [qualityOf_cons, hnone, Option.getD_none, ih]
  · rintro rfl
    induction parameters with
    | nil => exact .unsaid
    | cons parameter parameters ih =>
      rw [qualityOf_cons]
      cases hquality : quality? parameter with
      | some given => exact .said (givesQuality_iff.mpr hquality)
      | none =>
        refine .passed (fun given h => ?_) ih
        rw [givesQuality_iff, hquality] at h
        cases h

theorem has_qualityOf (parameters : List (List Char)) : single.Has (qualityOf parameters) := by
  induction parameters with
  | nil =>
    have hone : single.Has (single.ofInt 1) :=
      Number.has_round (by decide) (by decide) Nat.one_pos _
    exact hone
  | cons parameter parameters ih =>
    rw [qualityOf_cons]
    cases hquality : quality? parameter with
    | some given =>
      obtain ⟨number, -, hread⟩ := givesQuality_iff.mpr hquality
      exact Number.has_of_readBinary (by decide) (by decide) hread
    | none => exact ih

theorem qualityItem?_of_isCut (h : Text.IsCut ';' item (value :: parameters)) :
    qualityItem? item = if Text.trim value = [] then none
      else some (String.ofList (Text.trim value), qualityOf parameters) := by
  simp only [qualityItem?, Text.isCut_iff.mp h, List.isEmpty_iff]

theorem exists_isCut (item : List Char) :
    ∃ value parameters, Text.IsCut ';' item (value :: parameters) := by
  obtain ⟨value, parameters, hparts⟩ := Text.exists_splitOn_eq_cons (· = ';') item
  exact ⟨value, parameters, Text.isCut_iff.mpr hparts⟩

theorem lists_iff : Lists items rated ↔ items.filterMap qualityItem? = rated := by
  constructor
  · intro h
    induction h with
    | nil => rfl
    | @named item value parameters items name quality rated hitem hname hne hquality _ ih =>
      have hread : qualityItem? item = some (name, quality) := by
        rw [qualityItem?_of_isCut hitem, hname.trim_eq, if_neg (mt String.toList_eq_nil_iff.mp hne),
          String.ofList_toList, hasQuality_iff.mp hquality]
      rw [List.filterMap_cons_some hread, ih]
    | @nameless item value parameters items rated hitem hblank _ ih =>
      have hread : qualityItem? item = none := by
        rw [qualityItem?_of_isCut hitem, if_pos (Text.trim_eq_nil_iff.mpr hblank)]
      rw [List.filterMap_cons_none hread, ih]
  · rintro rfl
    induction items with
    | nil => exact .nil
    | cons item items ih =>
      obtain ⟨value, parameters, hitem⟩ := exists_isCut item
      have hread := qualityItem?_of_isCut hitem
      by_cases hblank : Text.trim value = []
      · rw [if_pos hblank] at hread
        rw [List.filterMap_cons_none hread]
        exact .nameless hitem (Text.trim_eq_nil_iff.mp hblank) ih
      · rw [if_neg hblank] at hread
        rw [List.filterMap_cons_some hread]
        refine .named hitem ?_ (mt String.ofList_eq_empty_iff.mp hblank) (hasQuality_iff.mpr rfl) ih
        rw [String.toList_ofList]
        exact Text.trims_trim value

theorem has_of_mem_qualityItems {rating : String × Binary} (h : rating ∈ qualityItems field) :
    single.Has rating.2 := by
  obtain ⟨item, -, hread⟩ := List.mem_filterMap.mp h
  obtain ⟨value, parameters, hitem⟩ := exists_isCut item
  rw [qualityItem?_of_isCut hitem] at hread
  split at hread
  · cases hread
  · cases hread
    exact has_qualityOf parameters

/-! The order of items -/

/-- Whether a list has the same items by falling quality, and those of each quality in their order.
Two qualities at one place of the total order are the same. -/
structure Ranks (rated ranked : List (String × Binary)) : Prop where
  perm : ranked.Perm rated
  falling : ranked.Pairwise fun a b => b.2.AtMost a.2
  stable : ∀ quality, ranked.filter (·.2 = quality) = rated.filter (·.2 = quality)

theorem ranksBefore_trans (a b c : String × Binary) (hab : ranksBefore a b = true)
    (hbc : ranksBefore b c = true) : ranksBefore a c = true := by
  simp only [ranksBefore, decide_eq_true_eq] at hab hbc ⊢
  omega

theorem ranksBefore_total (a b : String × Binary) :
    (ranksBefore a b || ranksBefore b a) = true := by
  simp only [ranksBefore, Bool.or_eq_true, decide_eq_true_eq]
  omega

/-- Sorting leaves the items of one quality in their order. -/
theorem filter_mergeSort (rated : List (String × Binary)) (quality : Binary) :
    (rated.mergeSort ranksBefore).filter (·.2 = quality) = rated.filter (·.2 = quality) := by
  have hequal : (rated.filter (·.2 = quality)).Pairwise fun a b => ranksBefore a b = true := by
    refine List.pairwise_of_forall_mem_list fun a ha b hb => ?_
    have hqa : a.2 = quality := of_decide_eq_true (List.mem_filter.mp ha).2
    have hqb : b.2 = quality := of_decide_eq_true (List.mem_filter.mp hb).2
    simp [ranksBefore, hqa, hqb]
  have hkept := (List.sublist_mergeSort ranksBefore_trans ranksBefore_total hequal
    List.filter_sublist).filter (·.2 = quality)
  rw [List.filter_filter] at hkept
  simp only [Bool.and_self] at hkept
  have hlength := ((List.mergeSort_perm rated ranksBefore).filter (·.2 = quality)).length_eq
  exact (hkept.eq_of_length hlength.symm).symm

theorem ranks_mergeSort (hhas : ∀ rating ∈ rated, single.Has rating.2) :
    Ranks rated (rated.mergeSort ranksBefore) := by
  have hperm := List.mergeSort_perm rated ranksBefore
  refine ⟨hperm, ?_, filter_mergeSort rated⟩
  have hsorted := List.pairwise_mergeSort ranksBefore_trans ranksBefore_total rated
  refine hsorted.imp_of_mem fun {a b} ha hb hranks => ?_
  exact (Number.rank_le_iff (by decide) (hhas b (hperm.mem_iff.mp hb))
    (hhas a (hperm.mem_iff.mp ha))).mp (of_decide_eq_true hranks)

theorem mem_iff_of_filter_eq {rating : String × Binary}
    (h : ranked.filter (·.2 = rating.2) = ranked'.filter (·.2 = rating.2)) :
    rating ∈ ranked ↔ rating ∈ ranked' := by
  have hmem := congrArg (rating ∈ ·) h
  simpa using hmem

/-- Of two lists by falling quality that agree on each quality, both begin with the same item. -/
theorem eq_of_filter_eq (hhas : ∀ rating ∈ ranked, single.Has rating.2)
    (h : ranked.Pairwise fun a b => b.2.AtMost a.2)
    (h' : ranked'.Pairwise fun a b => b.2.AtMost a.2)
    (hfilter : ∀ quality, ranked.filter (·.2 = quality) = ranked'.filter (·.2 = quality)) :
    ranked = ranked' := by
  induction ranked generalizing ranked' with
  | nil =>
    cases ranked' with
    | nil => rfl
    | cons first' rest' =>
      have hmem' := (mem_iff_of_filter_eq (hfilter first'.2)).mpr List.mem_cons_self
      exact absurd hmem' List.not_mem_nil
  | cons first rest ih =>
    have hmem := (mem_iff_of_filter_eq (hfilter first.2)).mp List.mem_cons_self
    cases ranked' with
    | nil => exact absurd hmem List.not_mem_nil
    | cons first' rest' =>
      have hmem' := (mem_iff_of_filter_eq (hfilter first'.2)).mpr List.mem_cons_self
      obtain ⟨hfirst, hrest⟩ := List.pairwise_cons.mp h
      obtain ⟨hfirst', hrest'⟩ := List.pairwise_cons.mp h'
      -- Neither of the two first items is above the other one.
      have hle : first.2.AtMost first'.2 := by
        rcases List.mem_cons.mp hmem with heq | hbehind
        · exact heq ▸ .refl first.2
        · exact hfirst' first hbehind
      have hge : first'.2.AtMost first.2 := by
        rcases List.mem_cons.mp hmem' with heq | hbehind
        · exact heq ▸ .refl first'.2
        · exact hfirst first' hbehind
      have hquality : first.2 = first'.2 := Number.eq_of_atMost (by decide)
        (hhas first List.mem_cons_self) (hhas first' hmem') hle hge
      have hheads := hfilter first.2
      rw [List.filter_cons_of_pos (by simp), List.filter_cons_of_pos (by simp [hquality])] at hheads
      obtain ⟨rfl, -⟩ := List.cons.inj hheads
      have htails : ∀ quality, rest.filter (·.2 = quality) = rest'.filter (·.2 = quality) := by
        intro quality
        have hboth := hfilter quality
        rw [List.filter_cons, List.filter_cons] at hboth
        split at hboth
        · exact (List.cons.inj hboth).2
        · exact hboth
      rw [ih (fun rating hm => hhas rating (List.mem_cons_of_mem _ hm)) hrest hrest' htails]

/-! What is asked for -/

/-- Whether a list is what a field asks for: its items in their order. -/
def AsksFor (field : String) (ranked : List (String × Binary)) : Prop :=
  ∃ items rated, Text.IsCut ',' field.toList items ∧ Lists items rated ∧ Ranks rated ranked

theorem qualityList_eq_iff : qualityList field = ranked ↔ AsksFor field ranked := by
  have hranks : Ranks (qualityItems field) (qualityList field) :=
    ranks_mergeSort fun rating => has_of_mem_qualityItems
  constructor
  · rintro rfl
    exact ⟨_, _, Text.isCut_iff.mpr rfl, lists_iff.mpr rfl, hranks⟩
  · rintro ⟨items, rated, hitems, hrated, hranks'⟩
    obtain rfl : qualityItems field = rated := by
      rw [qualityItems, Text.isCut_iff.mp hitems, lists_iff.mp hrated]
    refine eq_of_filter_eq ?_ hranks.falling hranks'.falling fun quality => ?_
    · exact fun rating hm => has_of_mem_qualityItems (hranks.perm.mem_iff.mp hm)
    · exact (hranks.stable quality).trans (hranks'.stable quality).symm

/-- What a client accepts is exactly what its field lists, by falling quality in the total order, in
which negative zero is below zero and what is no number beyond infinity. Where qualities are equal
the field decides. -/
theorem accepts_by_falling_quality (r : Request) (field : String) :
    (r.header? "accept" = some field → ∀ ranked, r.accept = ranked ↔ AsksFor field ranked) ∧
    (r.header? "accept" = none → r.accept = []) ∧
    (r.header? "accept-language" = some field →
      ∀ ranked, r.languages = ranked ↔ AsksFor field ranked) ∧
    (r.header? "accept-language" = none → r.languages = []) := by
  refine ⟨fun h ranked => ?_, fun h => ?_, fun h ranked => ?_, fun h => ?_⟩
  · rw [accept, h]
    exact qualityList_eq_iff
  · rw [accept, h]
    rfl
  · rw [languages, h]
    exact qualityList_eq_iff
  · rw [languages, h]
    rfl

/-- Qualities that are no number, infinite, negative, zero and equal; an item without a value, and
parameters that give no quality before the one that does. -/
theorem accepts_by_falling_quality_of_extremes :
    let field := "a;q=.5, b ;q=x; q=nan;q=1,\t;q=1,c;Q=9,,d;q=-0,e;q=0,f;q=5e-1 ,g;q=-inf,h;q=inf"
    let r := (Request.new .get "/").withField "Accept" field
    let half := Binary.finite false (2 ^ 23) (-24)
    let ranked := [("b", .nan false), ("h", .infinite false), ("c", .finite false (2 ^ 23) (-23)),
      ("a", half), ("f", half), ("e", single.zero false), ("d", single.zero true),
      ("g", .infinite true)]
    r.header? "accept" = some field ∧ r.accept = ranked ∧ AsksFor field ranked ∧
      r.header? "accept-language" = none ∧ r.languages = [] := by
  intro field r half ranked
  have hfield : r.header? "accept" = some field := by decide
  have hnone : r.header? "accept-language" = none := by decide
  have hitems : qualityItems field = [("a", half), ("b", .nan false),
      ("c", .finite false (2 ^ 23) (-23)), ("d", single.zero true), ("e", single.zero false),
      ("f", half), ("g", .infinite true), ("h", .infinite false)] := by decide +kernel
  have haccept : r.accept = ranked := by
    simp only [accept, hfield, Option.map_some, Option.getD_some, qualityList, hitems]
    simp [List.mergeSort, List.MergeSort.Internal.splitInTwo, ranksBefore, Binary.rank,
      Binary.rank.signed, single, half, ranked, Number.Format.zero]
  obtain ⟨hasks, -, -, hnothing⟩ := accepts_by_falling_quality r field
  exact ⟨hfield, haccept, (hasks hfield ranked).mp haccept, hnone, hnothing hnone⟩

end WebService.Request
