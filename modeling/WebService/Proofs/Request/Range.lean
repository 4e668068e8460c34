import WebService.Proofs.Number.Integer
import WebService.Proofs.Text.Blank
import WebService.Proofs.Text.Split
import WebService.Request.Preference

/-!
Ranges of octets are read as they are written, and a field of any form gives numbers of a word.
-/
namespace WebService.Request

open Number (digitsOf maxUInt64 readUInt64 Spells)

variable {field start stop ranges before behind rest part : List Char} {n : Nat}

/-! Forms of fields -/

/-- Whether a text is a range and what follows it: a part before the first dash and one behind it,
up to the first comma. -/
def IsRange (ranges start stop : List Char) : Prop :=
  '-' ∉ start ∧ ',' ∉ start ∧ ',' ∉ stop ∧
    ∃ rest, (rest = [] ∨ ∃ more, rest = ',' :: more) ∧ ranges = start ++ '-' :: (stop ++ rest)

/-- Whether a field begins with the unit of octets, and what stands behind that. -/
def HasUnit (field behind : List Char) : Prop :=
  ∃ before, (∀ c ∈ before, Text.isBlank c = true) ∧ field = before ++ ("bytes=".toList ++ behind)

/-- Whether a field asks for a range: behind the unit, or with no unit in front. -/
def HasRange (field start stop : List Char) : Prop :=
  (∃ ranges, HasUnit field ranges ∧ IsRange ranges start stop) ∨
    (∀ ranges, ¬ HasUnit field ranges) ∧ IsRange field start stop

/-- Whether a part tells a number: digits, with white space around them. -/
def Tells (part : List Char) (n : Nat) : Prop := ∃ digits, Text.Trims part digits ∧ Spells digits n

/-! Parts as numbers -/

theorem tells_iff : Tells part n ↔ Spells (Text.trim part) n := by
  simp only [Tells, Text.trims_iff, exists_eq_left']

theorem readUInt64_of_tells (h : Tells part n) :
    readUInt64 (Text.trim part) = if n ≤ maxUInt64 then some n else none :=
  Number.readNat_of_spells (tells_iff.mp h)

theorem readUInt64_of_not_tells (h : ∀ n, ¬ Tells part n) : readUInt64 (Text.trim part) = none :=
  Number.readNat_of_not_spells fun n hn => h n (tells_iff.mpr hn)

/-! Fields as parts -/

/-- The numbers of the first range in a text without a unit. -/
def numbers (ranges : List Char) : Nat × Option Nat :=
  match Text.splitFirst? (· = '-') (ranges.takeWhile (· ≠ ',')) with
  | none => (0, none)
  | some (start, stop) =>
    ((readUInt64 (Text.trim start)).getD 0, readUInt64 (Text.trim stop))

theorem firstRange_eq (field : List Char) : firstRange field =
    numbers ((Text.after? "bytes=".toList (Text.trim field)).getD field) := rfl

theorem isRange_iff : IsRange ranges start stop ↔
    Text.splitFirst? (· = '-') (ranges.takeWhile (· ≠ ',')) = some (start, stop) := by
  rw [Text.splitFirst?_eq_some_iff]
  constructor
  · rintro ⟨hdash, hstart, hstop, rest, hrest, rfl⟩
    have hcomma : ',' ∉ start ++ '-' :: stop := by simp [hstart, hstop]
    refine ⟨'-', rfl, Text.takeWhile_ne_eq_iff.mpr ⟨hcomma, rest, hrest, by simp⟩, ?_⟩
    intro c hc
    exact decide_eq_false fun he => hdash (he ▸ hc)
  · rintro ⟨c, hc, htaken, hdash⟩
    obtain rfl : c = '-' := of_decide_eq_true hc
    obtain ⟨hcomma, rest, hrest, rfl⟩ := Text.takeWhile_ne_eq_iff.mp htaken
    simp only [List.mem_append, List.mem_cons, not_or] at hcomma
    refine ⟨fun hmem => ?_, hcomma.1, hcomma.2.2, rest, hrest, by simp⟩
    simpa using hdash '-' hmem

theorem numbers_of_isRange (h : IsRange ranges start stop) : numbers ranges =
    ((readUInt64 (Text.trim start)).getD 0, readUInt64 (Text.trim stop)) := by
  rw [numbers, isRange_iff.mp h]

theorem numbers_of_not_isRange (h : ∀ start stop, ¬ IsRange ranges start stop) :
    numbers ranges = (0, none) := by
  rw [numbers]
  split
  · rfl
  · rename_i start stop hsplit
    exact absurd (isRange_iff.mpr hsplit) (h start stop)

theorem exists_takeWhile_append (h : ∀ c ∈ behind, Text.isBlank c = true) (ranges : List Char) :
    ∃ blank, (∀ c ∈ blank, Text.isBlank c = true) ∧
      (ranges ++ behind).takeWhile (· ≠ ',') = ranges.takeWhile (· ≠ ',') ++ blank := by
  rw [List.takeWhile_append]
  split
  · rename_i hall
    have hself := (List.takeWhile_prefix (p := (· ≠ ',')) (l := ranges)).eq_of_length hall
    exact ⟨_, fun c hc => h c ((List.takeWhile_prefix _).subset hc), by rw [hself]⟩
  · exact ⟨[], List.forall_mem_nil _, (List.append_nil _).symm⟩

/-- White space at the end is no part of a number. -/
theorem numbers_append_blank (h : ∀ c ∈ behind, Text.isBlank c = true) (ranges : List Char) :
    numbers (ranges ++ behind) = numbers ranges := by
  obtain ⟨blank, hblank, htaken⟩ := exists_takeWhile_append h ranges
  have hdash : ∀ c ∈ blank, decide (c = '-') = false := by
    intro c hc
    apply decide_eq_false
    rintro rfl
    exact absurd (hblank '-' hc) (by decide)
  rw [numbers, numbers, htaken, Text.splitFirst?_append hdash]
  cases Text.splitFirst? (· = '-') (ranges.takeWhile (· ≠ ',')) with
  | none => rfl
  | some parts => simp only [Option.map_some, Text.trim_append_right hblank]

theorem firstRange_of_hasUnit (h : HasUnit field behind) : firstRange field = numbers behind := by
  obtain ⟨before, hbefore, rfl⟩ := h
  have hhead : ∀ c, "bytes=".toList.head? = some c → Text.isBlank c = false := by
    rintro c ⟨⟩
    decide
  have hlast : ∀ c, "bytes=".toList.getLast? = some c → Text.isBlank c = false := by
    rintro c ⟨⟩
    decide
  obtain ⟨body, blank, hblank, rfl, htrim⟩ :=
    Text.exists_trim_append (by decide : "bytes=".toList ≠ []) hhead hlast behind
  have hafter : Text.after? "bytes=".toList ("bytes=".toList ++ body) = some body :=
    Text.after?_eq_some_iff.mpr rfl
  rw [firstRange_eq, Text.trim_append_left hbefore, htrim, hafter, Option.getD_some,
    numbers_append_blank hblank]

theorem firstRange_of_not_hasUnit (h : ∀ ranges, ¬ HasUnit field ranges) :
    firstRange field = numbers field := by
  have hnone : Text.after? "bytes=".toList (Text.trim field) = none := by
    rw [Option.eq_none_iff_forall_ne_some]
    intro ranges hranges
    obtain ⟨before, behind, hbefore, -, hfield⟩ := (Text.trims_trim field).around
    rw [Text.after?_eq_some_iff.mp hranges, List.append_assoc] at hfield
    exact h _ ⟨before, hbefore, hfield⟩
  rw [firstRange_eq, hnone, Option.getD_none]

/-! Ranges that come back -/

/-- Whether a field asks for a range as it is written: the unit and two numbers, of which the second
may be left out, with white space around each of them. Other ranges may follow behind a comma. -/
def Asks (field : List Char) (start : Nat) (stop : Option Nat) : Prop :=
  ∃ before behindUnit beforeDash behindDash behind rest,
    (∀ blank ∈ [before, behindUnit, beforeDash, behindDash, behind],
      ∀ c ∈ blank, Text.isBlank c = true) ∧
    (rest = [] ∨ ∃ more, rest = ',' :: more) ∧
    field = before ++ ("bytes=".toList ++ (behindUnit ++ (digitsOf start ++ (beforeDash ++ '-' ::
      (behindDash ++ (stop.elim [] digitsOf ++ (behind ++ rest)))))))

theorem not_mem_digitsOf {mark : Char} (hmark : mark.isDigit = false) : mark ∉ digitsOf n :=
  Text.not_mem_of_forall (fun _ hc => Number.isDigit_of_mem_digitsOf hc) hmark

theorem tells_digitsOf (hbefore : ∀ c ∈ before, Text.isBlank c = true)
    (hbehind : ∀ c ∈ behind, Text.isBlank c = true) (n : Nat) :
    Tells (before ++ (digitsOf n ++ behind)) n := by
  have hdigit : ∀ c ∈ digitsOf n, Text.isBlank c = false := fun c hc =>
    Text.isBlank_of_isDigit (Number.isDigit_of_mem_digitsOf hc)
  refine ⟨digitsOf n, ⟨⟨before, behind, hbefore, hbehind, rfl⟩, ?_, ?_⟩, Number.spells_digitsOf n⟩
  · exact fun c hc => hdigit c (List.mem_of_head? hc)
  · exact fun c hc => hdigit c (List.mem_of_getLast? hc)

theorem not_tells_of_isBlank (h : ∀ c ∈ part, Text.isBlank c = true) : ¬ Tells part n := by
  rw [tells_iff, Text.trim_eq_nil_iff.mpr h]
  rintro ⟨ds, hnil | hplus, hds, -⟩
  · rw [← hnil] at hds
    cases hds
  · cases hplus

/-- A written range is one in the form of fields, and its parts tell its numbers. -/
theorem Asks.hasRange {first : Nat} {last : Option Nat} (h : Asks field first last) :
    ∃ start stop, HasRange field start stop ∧ Tells start first ∧
      (∀ n ∈ last, Tells stop n) ∧ (last = none → ∀ n, ¬ Tells stop n) := by
  obtain ⟨before, behindUnit, beforeDash, behindDash, behind, rest, hblank, hrest, rfl⟩ := h
  simp only [List.forall_mem_cons] at hblank
  obtain ⟨hbefore, hbehindUnit, hbeforeDash, hbehindDash, hbehind, -⟩ := hblank
  have hfree : ∀ mark, Text.isBlank mark = false → mark.isDigit = false →
      mark ∉ behindUnit ++ (digitsOf first ++ beforeDash) ∧
      mark ∉ behindDash ++ (last.elim [] digitsOf ++ behind) := by
    intro mark hmark hdigit
    have hlast : mark ∉ last.elim [] digitsOf := by
      cases last with
      | none => exact List.not_mem_nil
      | some n => exact not_mem_digitsOf hdigit
    simp only [List.mem_append, not_or]
    exact ⟨⟨Text.not_mem_of_forall hbehindUnit hmark, not_mem_digitsOf hdigit,
      Text.not_mem_of_forall hbeforeDash hmark⟩, Text.not_mem_of_forall hbehindDash hmark, hlast,
      Text.not_mem_of_forall hbehind hmark⟩
  obtain ⟨hdash, -⟩ := hfree '-' (by decide) (by decide)
  obtain ⟨hstart, hstop⟩ := hfree ',' (by decide) (by decide)
  refine ⟨behindUnit ++ (digitsOf first ++ beforeDash),
    behindDash ++ (last.elim [] digitsOf ++ behind), .inl ⟨_, ⟨before, hbefore, rfl⟩, hdash, hstart,
      hstop, rest, hrest, by simp⟩, tells_digitsOf hbehindUnit hbeforeDash first, ?_, ?_⟩
  · rintro n rfl
    exact tells_digitsOf hbehindDash hbehind n
  · rintro rfl n
    exact not_tells_of_isBlank (List.forall_mem_append.mpr ⟨hbehindDash, hbehind⟩)

theorem firstRange_of_hasRange (h : HasRange field start stop) : firstRange field =
    ((readUInt64 (Text.trim start)).getD 0, readUInt64 (Text.trim stop)) := by
  rcases h with ⟨ranges, hunit, hrange⟩ | ⟨hnone, hrange⟩
  · rw [firstRange_of_hasUnit hunit, numbers_of_isRange hrange]
  · rw [firstRange_of_not_hasUnit hnone, numbers_of_isRange hrange]

theorem firstRange_of_not_hasRange (h : ∀ start stop, ¬ HasRange field start stop) :
    firstRange field = (0, none) := by
  by_cases hunit : ∃ ranges, HasUnit field ranges
  · obtain ⟨ranges, hranges⟩ := hunit
    rw [firstRange_of_hasUnit hranges]
    exact numbers_of_not_isRange fun start stop hrange =>
      h start stop (.inl ⟨ranges, hranges, hrange⟩)
  · have hnone : ∀ ranges, ¬ HasUnit field ranges := fun ranges hranges => hunit ⟨ranges, hranges⟩
    rw [firstRange_of_not_hasUnit hnone]
    exact numbers_of_not_isRange fun start stop hrange => h start stop (.inr ⟨hnone, hrange⟩)

/-- What the parts of a field come to, whatever stands in them. -/
structure ReadsParts (range : Nat × Option Nat) (start stop : List Char) : Prop where
  first : ∀ n, Tells start n → range.1 = if n ≤ maxUInt64 then n else 0
  noFirst : (∀ n, ¬ Tells start n) → range.1 = 0
  last : ∀ n, Tells stop n → range.2 = if n ≤ maxUInt64 then some n else none
  noLast : (∀ n, ¬ Tells stop n) → range.2 = none

theorem readsParts_of_hasRange (h : HasRange field start stop) :
    ReadsParts (firstRange field) start stop := by
  rw [firstRange_of_hasRange h]
  refine ⟨fun n hn => ?_, fun hnone => ?_, fun n hn => readUInt64_of_tells hn,
    readUInt64_of_not_tells⟩
  · rw [readUInt64_of_tells hn]
    split <;> rfl
  · rw [readUInt64_of_not_tells hnone]
    rfl

theorem firstRange_le (field : List Char) :
    (firstRange field).1 ≤ maxUInt64 ∧ ∀ n ∈ (firstRange field).2, n ≤ maxUInt64 := by
  by_cases h : ∃ start stop, HasRange field start stop
  · obtain ⟨start, stop, hrange⟩ := h
    rw [firstRange_of_hasRange hrange]
    refine ⟨?_, fun n hn => Number.le_of_readNat hn⟩
    cases hread : readUInt64 (Text.trim start) with
    | none => exact Nat.zero_le _
    | some n => exact Number.le_of_readNat hread
  · rw [firstRange_of_not_hasRange fun start stop hrange => h ⟨start, stop, hrange⟩]
    exact ⟨Nat.zero_le _, fun n hn => by cases hn⟩

/-- A range that is written with numbers of a word is read as it is. A field of any form gives
numbers of a word: one that is too large counts as zero at the start and as nothing at the end, as
does a part that is no number, and a field without a range asks for everything. -/
theorem range_of_any_field (r : Request) (field : String) :
    (r.header? "range" = some field →
      (∀ first last, Asks field.toList first last → first ≤ maxUInt64 →
        (∀ n ∈ last, n ≤ maxUInt64) → r.range = (first, last)) ∧
      (r.range.1 ≤ maxUInt64 ∧ ∀ n ∈ r.range.2, n ≤ maxUInt64) ∧
      (∀ start stop, HasRange field.toList start stop → ReadsParts r.range start stop) ∧
      ((∀ start stop, ¬ HasRange field.toList start stop) → r.range = (0, none))) ∧
    (r.header? "range" = none → r.range = (0, none)) := by
  refine ⟨fun h => ?_, fun h => ?_⟩
  · have hrange : r.range = firstRange field.toList := by rw [range, h]
    rw [hrange]
    refine ⟨fun first last hasks hfirst hlast => ?_, firstRange_le field.toList,
      fun start stop => readsParts_of_hasRange, firstRange_of_not_hasRange⟩
    obtain ⟨start, stop, hparts, hstart, hstop, hnone⟩ := hasks.hasRange
    have hreads := readsParts_of_hasRange hparts
    refine Prod.ext ?_ ?_
    · rw [hreads.first first hstart, if_pos hfirst]
    · cases last with
      | none => exact hreads.noLast (hnone rfl)
      | some n => rw [hreads.last n (hstop n rfl), if_pos (hlast n rfl)]
  · rw [range, h]

/-- The largest number of a word, with white space and another range behind it, and two numbers that
are too large for a word. -/
theorem range_of_any_field_of_bounds :
    let written := " bytes=\t18446744073709551615 - 0 ,5-6"
    let tooLarge := "bytes=18446744073709551616-99999999999999999999"
    let r := (Request.new .get "/").withField "Range" written
    let r' := (Request.new .get "/").withField "Range" tooLarge
    (r.header? "range" = some written ∧ Asks written.toList maxUInt64 (some 0) ∧
      r.range = (maxUInt64, some 0)) ∧
    r'.header? "range" = some tooLarge ∧
      HasRange tooLarge.toList "18446744073709551616".toList "99999999999999999999".toList ∧
      r'.range = (0, none) := by
  intro written tooLarge r r'
  have hfield : r.header? "range" = some written := by decide
  have hfield' : r'.header? "range" = some tooLarge := by decide
  have hblank : ∀ blank ∈ [[' '], ['\t'], [' '], [' '], [' ']], ∀ c ∈ blank,
      Text.isBlank c = true := by
    simp only [← List.all_eq_true]
    decide
  have hasks : Asks written.toList maxUInt64 (some 0) :=
    ⟨[' '], ['\t'], [' '], [' '], [' '], ",5-6".toList, hblank, .inr ⟨_, rfl⟩, by decide⟩
  have hrange : HasRange tooLarge.toList "18446744073709551616".toList
      "99999999999999999999".toList :=
    .inl ⟨"18446744073709551616-99999999999999999999".toList,
      ⟨[], List.forall_mem_nil _, by decide⟩, by decide, by decide, by decide, [], .inl rfl,
      by decide⟩
  have hfirst : Tells "18446744073709551616".toList 18446744073709551616 :=
    tells_iff.mpr ⟨_, .inl rfl, by decide, by decide⟩
  have hlast : Tells "99999999999999999999".toList 99999999999999999999 :=
    tells_iff.mpr ⟨_, .inl rfl, by decide, by decide⟩
  obtain ⟨hread, -⟩ := (range_of_any_field r written).1 hfield
  obtain ⟨-, -, hreads, -⟩ := (range_of_any_field r' tooLarge).1 hfield'
  exact ⟨⟨hfield, hasks, hread _ _ hasks (by decide) (by decide)⟩, hfield', hrange,
    Prod.ext ((hreads _ _ hrange).first _ hfirst) ((hreads _ _ hrange).last _ hlast)⟩

end WebService.Request
