import Mathlib.Algebra.Group.Nat.Defs
import WebService.Calendar.Reader
import WebService.Calendar.Writer
import WebService.Proofs.Calendar.Days
import WebService.Proofs.Number.Integer
import WebService.Proofs.Text.Blank

/-!
Dates and times part by part: each part is read as it was written, whatever stands behind it that
cannot be taken for more of it.
-/
namespace WebService.Calendar

open Number (digitsOf natOfDigits digitValue)
open Text (isBlank)

variable {c separator : Char} {cs ds rest : List Char} {least most width n : Nat}

/-! Digits -/

/-- Whether the digits before a text end there. -/
def EndsDigits (rest : List Char) : Prop := ∀ c ∈ rest.head?, c.isDigit = false

theorem endsDigits_cons (h : c.isDigit = false) : EndsDigits (c :: rest) := by
  intro d hd
  cases hd
  exact h

theorem takeWhile_digits (hds : ∀ d ∈ ds, d.isDigit = true) (hmost : ds.length ≤ most)
    (hrest : ds.length = most ∨ EndsDigits rest) :
    ((ds ++ rest).take most).takeWhile Char.isDigit = ds := by
  rw [List.take_append, List.take_of_length_le hmost, List.takeWhile_append_of_pos hds]
  rcases hrest with hfull | hends
  · rw [hfull, Nat.sub_self, List.take_zero, List.takeWhile_nil, List.append_nil]
  · have hnone : (rest.take (most - ds.length)).takeWhile Char.isDigit = [] := by
      cases rest with
      | nil => rw [List.take_nil, List.takeWhile_nil]
      | cons c rest =>
        cases most - ds.length with
        | zero => rfl
        | succ k => simp [hends c rfl]
    rw [hnone, List.append_nil]

theorem scanDigits_append (hds : ∀ d ∈ ds, d.isDigit = true) (hleast : least ≤ ds.length)
    (hmost : ds.length ≤ most) (hrest : ds.length = most ∨ EndsDigits rest) :
    scanDigits least most (ds ++ rest) = some (natOfDigits ds, rest) := by
  rw [scanDigits, takeWhile_digits hds hmost hrest, if_neg (Nat.not_lt.mpr hleast), List.drop_left]

theorem scanDigits_of_few (hds : ∀ d ∈ ds, d.isDigit = true) (hfew : ds.length < least)
    (hmost : ds.length ≤ most) (hrest : EndsDigits rest) :
    scanDigits least most (ds ++ rest) = none := by
  rw [scanDigits, takeWhile_digits hds hmost (Or.inr hrest), if_pos hfew]

theorem isDigit_of_mem_padded (h : c ∈ padded width n) : c.isDigit = true := by
  rcases List.mem_append.mp h with hzero | hdigit
  · rw [(List.mem_replicate.mp hzero).2]
    rfl
  · exact Number.isDigit_of_mem_digitsOf hdigit

theorem natOfDigits_padded (width n : Nat) : natOfDigits (padded width n) = n := by
  have hzeros : ∀ k, (List.replicate k '0').foldl (fun n c => 10 * n + digitValue c) 0 = 0 := by
    intro k
    induction k with
    | zero => rfl
    | succ k ih => exact ih
  have hvalue := Number.natOfDigits_digitsOf n
  rw [natOfDigits] at hvalue ⊢
  rw [padded, List.foldl_append, hzeros, hvalue]

theorem le_length_padded (width n : Nat) : width ≤ (padded width n).length := by
  rw [padded, List.length_append, List.length_replicate]
  omega

theorem length_padded (hwidth : 0 < width) (hn : n < 10 ^ width) :
    (padded width n).length = width := by
  have hdigits : (digitsOf n).length ≤ width :=
    (Nat.length_toDigits_le_iff (by decide) hwidth).mpr hn
  rw [padded, List.length_append, List.length_replicate]
  omega

/-- A number that fills its width ends there. -/
theorem scanDigits_padded (hwidth : 0 < width) (hn : n < 10 ^ width) (rest : List Char) :
    scanDigits width width (padded width n ++ rest) = some (n, rest) := by
  have hlength := length_padded hwidth hn
  rw [scanDigits_append (fun _ => isDigit_of_mem_padded) (Nat.le_of_eq hlength.symm)
    (Nat.le_of_eq hlength) (Or.inl hlength), natOfDigits_padded]

/-! Parts behind white space -/

theorem skipBlank_cons (h : isBlank c = false) : skipBlank (c :: cs) = c :: cs :=
  List.dropWhile_cons_of_neg (by simp [h])

theorem skipBlank_padded (hwidth : 0 < width) (rest : List Char) :
    skipBlank (padded width n ++ rest) = padded width n ++ rest := by
  have hlength := le_length_padded width n
  cases hds : padded width n with
  | nil =>
    rw [hds] at hlength
    exact absurd hlength (Nat.not_le.mpr hwidth)
  | cons c cs =>
    have hdigit : c.isDigit = true := isDigit_of_mem_padded (hds ▸ List.mem_cons_self)
    exact skipBlank_cons (Text.isBlank_of_isDigit hdigit)

theorem scanPart_padded (hn : n < 100) (rest : List Char) :
    scanPart (padded 2 n ++ rest) = some (n, rest) := by
  have hlength := length_padded (by decide : 0 < 2) hn
  rw [scanPart, skipBlank_padded (by decide), scanDigits_append (fun _ => isDigit_of_mem_padded)
    (by omega) (by omega) (Or.inl hlength), natOfDigits_padded]

theorem scanNext_padded (hmark : isBlank separator = false) (hn : n < 100) (rest : List Char) :
    scanNext separator (separator :: (padded 2 n ++ rest)) = some (n, rest) := by
  rw [scanNext, skipBlank_cons hmark, scanChar, if_pos rfl]
  exact scanPart_padded hn rest

theorem scanNext_of_ne (hblank : isBlank c = false) (hne : c ≠ separator) :
    scanNext separator (c :: cs) = none := by
  rw [scanNext, skipBlank_cons hblank, scanChar, if_neg hne]
  rfl

/-! Dates -/

theorem scanYear_digits (hds : ∀ d ∈ ds, d.isDigit = true) (hleast : 1 ≤ ds.length)
    (hmost : ds.length ≤ 4) (hrest : EndsDigits rest) :
    scanYear (ds ++ rest) = some ((natOfDigits ds : Int), rest) := by
  have hread := scanDigits_append hds hleast hmost (Or.inr hrest)
  cases ds with
  | nil => cases hleast
  | cons c cs =>
    have hc : c.isDigit = true := hds c List.mem_cons_self
    rw [List.cons_append] at hread ⊢
    rw [scanYear, skipBlank_cons (Text.isBlank_of_isDigit hc)]
    split
    · rename_i heq
      exact absurd (List.cons.inj heq).1 (Number.ne_of_isDigit hc rfl)
    · rename_i heq
      exact absurd (List.cons.inj heq).1 (Number.ne_of_isDigit hc rfl)
    · rw [hread]
      rfl

theorem scanDigits_long (width n : Nat) (hwidth : 0 < width) (hrest : EndsDigits rest) :
    scanDigits 1 (padded width n ++ rest).length (padded width n ++ rest) = some (n, rest) := by
  have hleast := le_length_padded width n
  have hmost : (padded width n).length ≤ (padded width n ++ rest).length := by
    rw [List.length_append]
    exact Nat.le_add_right _ _
  rw [scanDigits_append (fun _ => isDigit_of_mem_padded) (by omega) hmost (Or.inr hrest),
    natOfDigits_padded]

/-- Only years of more than four digits need a sign to be read, and they have one. -/
theorem scanYear_writeYear (year : Int) (hrest : EndsDigits rest) :
    scanYear (writeYear year ++ rest) = some (year, rest) := by
  rw [writeYear]
  split
  · rename_i hplain
    simp only [Bool.and_eq_true, decide_eq_true_iff] at hplain
    obtain ⟨hlow, hhigh⟩ := hplain
    have hlength := length_padded (by decide : 0 < 4) (by omega : year.toNat < 10 ^ 4)
    rw [scanYear_digits (fun _ => isDigit_of_mem_padded) (by omega) (by omega) hrest,
      natOfDigits_padded, Int.toNat_of_nonneg hlow]
  · have hread := scanDigits_long 4 year.natAbs (by decide) hrest
    split
    · rename_i hnegative
      have hyear : -(year.natAbs : Int) = year := by omega
      rw [List.cons_append, scanYear, skipBlank_cons (by decide)]
      simp only [hread, Option.map_some, hyear]
    · rename_i hsigned hpositive
      have hyear : (year.natAbs : Int) = year := by omega
      rw [List.cons_append, scanYear, skipBlank_cons (by decide)]
      simp only [hread, Option.map_some, hyear]

variable {d : Date}

/-- Months and days have at most two digits. -/
theorem Date.parts_lt (hd : d.isValid = true) : d.month < 100 ∧ d.day < 100 := by
  obtain ⟨-, hday, hlength⟩ := Date.isValid_iff.mp hd
  obtain ⟨-, hmonth⟩ := Date.month_of_daysInMonth_pos (Nat.lt_of_lt_of_le hday hlength)
  have hmost := Date.daysInMonth_le_31 d.year d.month
  omega

theorem scanDate_writeDate (hd : d.isValid = true) (rest : List Char) :
    scanDate (writeDate d ++ rest) = some (d, skipBlank rest) := by
  obtain ⟨hmonth, hday⟩ := Date.parts_lt hd
  have hdash : isBlank '-' = false := by decide
  have hyear : ∀ cs, scanYear (writeYear d.year ++ '-' :: cs) = some (d.year, '-' :: cs) :=
    fun _ => scanYear_writeYear d.year (endsDigits_cons rfl)
  simp only [writeDate, List.append_assoc, List.cons_append]
  rw [scanDate, hyear]
  simp [scanNext_padded hdash hmonth, scanNext_padded hdash hday, Date.make?_of_isValid hd]

/-! Times -/

/-- Whether the time is one of a clock, on which only the last second of a minute is a leap
second. -/
structure Time.IsClock (t : Time) : Prop where
  valid : t.isValid = true
  leap : 1000000000 ≤ t.nanosecond → t.second = 59

variable {t : Time}

theorem Time.isValid_iff : t.isValid = true ↔
    t.hour < 24 ∧ t.minute < 60 ∧ t.second < 60 ∧ t.nanosecond < 2000000000 := by
  simp only [isValid, Bool.and_eq_true, decide_eq_true_iff, and_assoc]

theorem shownSecond_bounds (h : t.IsClock) :
    (shownSecond t).1 ≤ 60 ∧ (shownSecond t).2 < 1000000000 := by
  obtain ⟨-, -, hsecond, hnano⟩ := Time.isValid_iff.mp h.valid
  have hleap := h.leap
  unfold shownSecond
  split
  · exact ⟨Nat.le_of_lt hsecond, by assumption⟩
  · simp only
    omega

/-- Hours, minutes and the seconds that are shown have at most two digits. -/
theorem Time.parts_lt (h : t.IsClock) :
    t.hour < 100 ∧ t.minute < 100 ∧ (shownSecond t).1 < 100 := by
  obtain ⟨hhour, hminute, -⟩ := Time.isValid_iff.mp h.valid
  have hsecond := (shownSecond_bounds h).1
  omega

/-- The second that is shown tells the time. -/
theorem makeTime?_shownSecond (h : t.IsClock) :
    makeTime? t.hour t.minute (shownSecond t).1 (shownSecond t).2 = some t := by
  obtain ⟨hhour, hminute, hsecond, hnano⟩ := Time.isValid_iff.mp h.valid
  have hleap := h.leap
  obtain ⟨hour, minute, second, nanosecond⟩ := t
  simp only at hhour hminute hsecond hnano hleap
  unfold shownSecond makeTime?
  by_cases hplain : nanosecond < 1000000000
  · have hne : second ≠ 60 := by omega
    simp [hplain, hne, Nat.not_le.mpr hhour, Nat.not_le.mpr hminute]
    omega
  · have hlast : second = 59 := hleap (by omega)
    subst hlast
    have hback : nanosecond - 1000000000 + 1000000000 = nanosecond := by omega
    simp [hplain, hback, Nat.not_le.mpr hhour, Nat.not_le.mpr hminute]

/-- Whether the time before a text ends there. -/
def EndsTime (rest : List Char) : Prop :=
  ∀ c ∈ rest.head?, c.isDigit = false ∧ c ≠ '.' ∧ isBlank c = false

theorem endsTime_nil : EndsTime [] := by
  intro c hc
  cases hc

theorem EndsTime.endsDigits (h : EndsTime rest) : EndsDigits rest := fun c hc => (h c hc).1

theorem EndsTime.skipBlank (h : EndsTime rest) : skipBlank rest = rest := by
  cases rest with
  | nil => rfl
  | cons c rest => exact skipBlank_cons (h c rfl).2.2

theorem EndsDigits.dropWhile (h : EndsDigits rest) : rest.dropWhile Char.isDigit = rest := by
  cases rest with
  | nil => rfl
  | cons c rest => exact List.dropWhile_cons_of_neg (by simp [h c rfl])

/-- Digits of a fraction are worth as many nanoseconds as there are places behind them. -/
theorem scanFraction_padded (hwidth : 0 < width) (hmost : width ≤ 9) (hn : n < 10 ^ width)
    (hrest : EndsDigits rest) :
    scanFraction ('.' :: (padded width n ++ rest)) = some (n * 10 ^ (9 - width), rest) := by
  have hlength := length_padded hwidth hn
  have hread : scanDigits 1 9 (padded width n ++ rest) = some (n, rest) := by
    rw [scanDigits_append (fun _ => isDigit_of_mem_padded) (by omega) (by omega) (Or.inr hrest),
      natOfDigits_padded]
  simp [scanFraction, hread, hlength, hrest.dropWhile]

theorem scanFraction_places {k : Nat} (hwidth : 0 < width) (hmost : width ≤ 9) (hn : n < 10 ^ 9)
    (hk : k * 10 ^ (9 - width) = n) (hrest : EndsDigits rest) :
    scanFraction ('.' :: (padded width k ++ rest)) = some (n, rest) := by
  have hplaces : 10 ^ width * 10 ^ (9 - width) = 10 ^ 9 := by
    rw [← Nat.pow_add, Nat.add_sub_cancel' hmost]
  have hlt : k < 10 ^ width := by
    rw [← hk, ← hplaces] at hn
    exact Nat.lt_of_mul_lt_mul_right hn
  rw [scanFraction_padded hwidth hmost hlt hrest, hk]

theorem scanFraction_of_endsTime (hrest : EndsTime rest) : scanFraction rest = some (0, rest) := by
  unfold scanFraction
  split
  · exact absurd rfl (hrest '.' rfl).2.1
  · rfl

theorem scanFraction_writeFraction (hn : n < 1000000000) (hrest : EndsTime rest) :
    scanFraction (writeFraction n ++ rest) = some (n, rest) := by
  have hends := hrest.endsDigits
  unfold writeFraction
  split
  · rename_i hzero
    rw [hzero]
    exact scanFraction_of_endsTime hrest
  · split
    · rename_i hmillis
      exact scanFraction_places (by decide) (by decide) hn (by omega) hends
    · split
      · rename_i hmicros
        exact scanFraction_places (by decide) (by decide) hn (by omega) hends
      · exact scanFraction_places (by decide) (by decide) hn (by omega) hends

theorem scanSeconds_written {second : Nat} (hsecond : second ≤ 60) (hn : n < 1000000000)
    (hrest : EndsTime rest) :
    scanSeconds (':' :: (padded 2 second ++ (writeFraction n ++ rest))) =
      some (second, n, rest) := by
  have hcolon : isBlank ':' = false := by decide
  rw [scanSeconds, scanNext_padded hcolon (by omega)]
  simp [scanFraction_writeFraction hn hrest, Nat.not_lt.mpr hsecond, hrest.skipBlank]

/-! Whole texts -/

theorem bind_of_eq_some {α β : Type} {x : Option α} {a : α} {f : α → Option β} (h : x = some a) :
    (x >>= f) = f a := by
  rw [h]
  rfl

theorem writeClock_append (t : Time) (rest : List Char) :
    writeClock t ++ rest = padded 2 t.hour ++ ':' :: (padded 2 t.minute ++
      ':' :: (padded 2 (shownSecond t).1 ++ rest)) := by
  simp [writeClock]

theorem writeTime_append (t : Time) (rest : List Char) :
    writeTime t ++ rest = padded 2 t.hour ++ ':' :: (padded 2 t.minute ++
      ':' :: (padded 2 (shownSecond t).1 ++ (writeFraction (shownSecond t).2 ++ rest))) := by
  rw [writeTime, List.append_assoc, writeClock_append]

theorem scanChar_self (c : Char) (cs : List Char) : scanChar c (c :: cs) = some cs := if_pos rfl

theorem readMoment?_written {m : Moment} (hdate : m.date.isValid = true) (htime : m.time.IsClock)
    (hrest : EndsTime rest) :
    readMoment? (writeMoment m ++ rest) = if rest.isEmpty then some m else none := by
  obtain ⟨hhour, hminute, -⟩ := Time.parts_lt htime
  obtain ⟨hsecond, hnano⟩ := shownSecond_bounds htime
  have hcolon : isBlank ':' = false := by decide
  have hmark : skipBlank ('T' :: (writeTime m.time ++ rest)) = 'T' :: (writeTime m.time ++ rest) :=
    skipBlank_cons (by decide)
  rw [readMoment?, writeMoment, List.append_assoc, List.cons_append, scanDate_writeDate hdate,
    hmark, writeTime_append]
  simp [scanChar_self, scanPart_padded hhour, scanNext_padded hcolon hminute,
    scanSeconds_written hsecond hnano hrest, makeTime?_shownSecond htime]

theorem readDate?_written (hd : d.isValid = true) : readDate? (writeDate d) = some d := by
  have hread := scanDate_writeDate hd []
  rw [List.append_nil] at hread
  simp [readDate?, hread, skipBlank]

theorem readTime?_written (ht : t.IsClock) : readTime? (writeTime t) = some t := by
  obtain ⟨hhour, hminute, -⟩ := Time.parts_lt ht
  obtain ⟨hsecond, hnano⟩ := shownSecond_bounds ht
  have hcolon : isBlank ':' = false := by decide
  have htext := writeTime_append t []
  rw [List.append_nil] at htext
  rw [readTime?, htext]
  simp only [scanPart_padded hhour, Option.bind_eq_bind, Option.bind_some,
    scanNext_padded hcolon hminute, scanSeconds_written hsecond hnano endsTime_nil,
    Option.getD_some, makeTime?_shownSecond ht]
  rfl

/-! Texts with an offset -/

/-- Years that are written with four digits and without a sign. -/
def IsPlainYear (year : Int) : Prop := 0 ≤ year ∧ year ≤ 9999

instance (year : Int) : Decidable (IsPlainYear year) := inferInstanceAs (Decidable (_ ∧ _))

theorem IsPlainYear.toNat_lt {year : Int} (h : IsPlainYear year) : year.toNat < 10 ^ 4 := by
  have hmost := h.2
  omega

theorem writeYear_of_isPlainYear {year : Int} (h : IsPlainYear year) :
    writeYear year = padded 4 year.toNat := if_pos (by simpa [IsPlainYear] using h)

theorem writeDate_append_of_isPlainYear (h : IsPlainYear d.year) (rest : List Char) :
    writeDate d ++ rest = padded 4 d.year.toNat ++ '-' :: (padded 2 d.month ++
      '-' :: (padded 2 d.day ++ rest)) := by
  simp [writeDate, writeYear_of_isPlainYear h]

/-- The marks that may stand between a date and its time. -/
def IsTimeMark (c : Char) : Prop := c = 'T' ∨ c = 't' ∨ c = ' '

theorem IsTimeMark.any_eq_true (h : IsTimeMark c) :
    (decide (c = 'T') || decide (c = 't') || decide (c = ' ')) = true := by
  rcases h with rfl | rfl | rfl
  all_goals decide

theorem readOffsetMoment?_written {m : Moment} {mark : Char} {fraction : List Char}
    (hmark : IsTimeMark mark) (hyear : IsPlainYear m.date.year) (hdate : m.date.isValid = true)
    (htime : m.time.IsClock)
    (hfraction : scanFraction (fraction ++ rest) = some ((shownSecond m.time).2, rest)) :
    readOffsetMoment? (writeDate m.date ++ mark :: (writeClock m.time ++ (fraction ++ rest))) =
      (scanOffset rest).bind fun (offset, cs) =>
        if cs.isEmpty then some (m.shift (-offset)) else none := by
  obtain ⟨hhour, hminute, hsecond⟩ := Time.parts_lt htime
  obtain ⟨hmonth, hday⟩ := Date.parts_lt hdate
  have htwo : ∀ n rest, n < 100 → scanDigits 2 2 (padded 2 n ++ rest) = some (n, rest) :=
    fun _ _ hn => scanDigits_padded (by decide) hn _
  rw [writeDate_append_of_isPlainYear hyear, writeClock_append, readOffsetMoment?]
  -- Part by part from the front, as rewriting would go through the whole chain behind for every
  -- part.
  refine (bind_of_eq_some (scanDigits_padded (by decide) hyear.toNat_lt _)).trans ?_
  refine (bind_of_eq_some (scanChar_self _ _)).trans ?_
  refine (bind_of_eq_some (htwo _ _ hmonth)).trans ?_
  refine (bind_of_eq_some (scanChar_self _ _)).trans ?_
  refine (bind_of_eq_some (htwo _ _ hday)).trans ?_
  refine (if_pos hmark.any_eq_true).trans ?_
  refine (bind_of_eq_some rfl).trans ?_
  refine (bind_of_eq_some (htwo _ _ hhour)).trans ?_
  refine (bind_of_eq_some (scanChar_self _ _)).trans ?_
  refine (bind_of_eq_some (htwo _ _ hminute)).trans ?_
  refine (bind_of_eq_some (scanChar_self _ _)).trans ?_
  refine (bind_of_eq_some (htwo _ _ hsecond)).trans ?_
  refine (bind_of_eq_some hfraction).trans ?_
  have hnumber : (m.date.year.toNat : Int) = m.date.year := Int.toNat_of_nonneg hyear.1
  have hmade : Date.make? (m.date.year.toNat : Int) m.date.month m.date.day = some m.date := by
    rw [hnumber, Date.make?_of_isValid hdate]
  refine congrArg (Option.bind (scanOffset rest)) (funext ?_)
  rintro ⟨offset, left⟩
  simp only [hmade, makeTime?_shownSecond htime]
  cases left <;> rfl

/-! Texts of another sort -/

theorem exists_sign_of_not_isPlainYear {year : Int} (h : ¬ IsPlainYear year) :
    ∃ sign ds, writeYear year = sign :: ds ∧ (sign = '-' ∨ sign = '+') := by
  have hwide : ¬ (decide (0 ≤ year) && decide (year ≤ 9999)) = true := by
    simpa [IsPlainYear] using h
  rw [writeYear, if_neg hwide]
  split
  · exact ⟨'-', _, rfl, Or.inl rfl⟩
  · exact ⟨'+', _, rfl, Or.inr rfl⟩

theorem scanDigits_of_sign (h : c = '-' ∨ c = '+') (hleast : 0 < least) :
    scanDigits least most (c :: cs) = none := by
  have hc : EndsDigits (c :: cs) := endsDigits_cons (by rcases h with rfl | rfl <;> rfl)
  exact scanDigits_of_few (List.forall_mem_nil _) hleast (Nat.zero_le _) hc

theorem readOffsetMoment?_of_sign (h : c = '-' ∨ c = '+') : readOffsetMoment? (c :: cs) = none := by
  rw [readOffsetMoment?, scanDigits_of_sign h (by decide)]
  rfl

theorem readTime?_of_sign (h : c = '-' ∨ c = '+') : readTime? (c :: cs) = none := by
  have hblank : isBlank c = false := by rcases h with rfl | rfl <;> decide
  rw [readTime?, scanPart, skipBlank_cons hblank, scanDigits_of_sign h (by decide)]
  rfl

/-- A date that ends there has no time to be read. -/
theorem readOffsetMoment?_writeDate (hd : d.isValid = true) :
    readOffsetMoment? (writeDate d) = none := by
  by_cases hyear : IsPlainYear d.year
  · obtain ⟨hmonth, hday⟩ := Date.parts_lt hd
    have hreadDay := scanDigits_padded (by decide : 0 < 2) hday []
    rw [← List.append_nil (writeDate d), writeDate_append_of_isPlainYear hyear, readOffsetMoment?]
    refine (bind_of_eq_some (scanDigits_padded (by decide) hyear.toNat_lt _)).trans ?_
    refine (bind_of_eq_some (scanChar_self _ _)).trans ?_
    refine (bind_of_eq_some (scanDigits_padded (by decide) hmonth _)).trans ?_
    refine (bind_of_eq_some (scanChar_self _ _)).trans ?_
    refine (bind_of_eq_some hreadDay).trans ?_
    rfl
  · obtain ⟨sign, ds, hds, hsign⟩ := exists_sign_of_not_isPlainYear hyear
    rw [writeDate, hds]
    exact readOffsetMoment?_of_sign hsign

theorem scanDate_writeTime (ht : t.IsClock) : scanDate (writeTime t) = none := by
  have hlength := length_padded (by decide : 0 < 2) (Time.parts_lt ht).1
  have hyear : ∀ cs,
      scanYear (padded 2 t.hour ++ ':' :: cs) = some ((t.hour : Int), ':' :: cs) := by
    intro cs
    rw [scanYear_digits (fun _ => isDigit_of_mem_padded) (by omega) (by omega)
      (endsDigits_cons rfl), natOfDigits_padded]
  have htext := writeTime_append t []
  rw [List.append_nil] at htext
  rw [scanDate, htext, hyear]
  simp [scanNext_of_ne (by decide : isBlank ':' = false) (by decide : ':' ≠ '-')]

theorem readOffsetMoment?_writeTime (ht : t.IsClock) : readOffsetMoment? (writeTime t) = none := by
  have hlength := length_padded (by decide : 0 < 2) (Time.parts_lt ht).1
  have htext := writeTime_append t []
  rw [List.append_nil] at htext
  rw [readOffsetMoment?, htext,
    scanDigits_of_few (fun _ => isDigit_of_mem_padded) (by omega) (by omega) (endsDigits_cons rfl)]
  rfl

end WebService.Calendar
