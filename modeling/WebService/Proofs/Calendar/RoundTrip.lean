import WebService.Json.Document
import WebService.Proofs.Calendar.Written
import WebService.Proofs.Json.Entity
import WebService.Proofs.Json.Written

/-!
Dates and times that are written into JSON and read back. Each is read as what it was, but for
moments of universal time in years outside four digits, which cannot be read at all.
-/
namespace WebService.Calendar

open Json (Document Style Value)

variable {d : Date} {t : Time} {m : Moment} {c : Char} {cs : List Char}

/-! Moments and their seconds -/

theorem Time.ofSeconds_toSeconds (h : t.isValid = true) :
    Time.ofSeconds t.toSeconds t.nanosecond = t := by
  obtain ⟨hour, minute, second, nanosecond⟩ := t
  obtain ⟨hhour, hminute, hsecond, -⟩ := Time.isValid_iff.mp h
  simp only at hhour hminute hsecond
  simp only [ofSeconds, toSeconds, Time.mk.injEq, and_true]
  omega

theorem Time.toSeconds_lt (h : t.isValid = true) : t.toSeconds < 86400 := by
  obtain ⟨hhour, hminute, hsecond, -⟩ := Time.isValid_iff.mp h
  rw [toSeconds]
  omega

/-- A moment is found again by its number of seconds. -/
theorem Moment.ofSeconds_toSeconds (hdate : m.date.isValid = true) (htime : m.time.isValid = true) :
    Moment.ofSeconds m.toSeconds m.time.nanosecond = m := by
  have hlt := Time.toSeconds_lt htime
  have hdays : m.toSeconds / 86400 = m.date.toDays := by
    rw [toSeconds]
    omega
  have hrest : (m.toSeconds % 86400).toNat = m.time.toSeconds := by
    rw [toSeconds]
    omega
  rw [ofSeconds, hdays, hrest, Date.ofDays_toDays hdate, Time.ofSeconds_toSeconds htime]

theorem Moment.shift_zero (hdate : m.date.isValid = true) (htime : m.time.isValid = true) :
    m.shift 0 = m := by
  rw [shift, Int.add_zero, Moment.ofSeconds_toSeconds hdate htime]

/-! Texts of dates and times -/

theorem readOffsetMoment?_writeMoment {rest : List Char} (hyear : IsPlainYear m.date.year)
    (hdate : m.date.isValid = true) (htime : m.time.IsClock) (hrest : EndsTime rest) :
    readOffsetMoment? (writeMoment m ++ rest) = (scanOffset rest).bind fun (offset, cs) =>
      if cs.isEmpty then some (m.shift (-offset)) else none := by
  have hfraction := scanFraction_writeFraction (shownSecond_bounds htime).2 hrest
  simpa [writeMoment, writeTime] using
    readOffsetMoment?_written (Or.inl rfl) hyear hdate htime hfraction

theorem readOffsetMoment?_of_not_isPlainYear (hyear : ¬ IsPlainYear m.date.year)
    (rest : List Char) :
    readOffsetMoment? (writeMoment m ++ rest) = none ∧
      readTime? (writeMoment m ++ rest) = none := by
  obtain ⟨sign, ds, hds, hsign⟩ := exists_sign_of_not_isPlainYear hyear
  rw [writeMoment, writeDate, hds]
  exact ⟨readOffsetMoment?_of_sign hsign, readTime?_of_sign hsign⟩

theorem parse?_writeMoment (hdate : m.date.isValid = true) (htime : m.time.IsClock) :
    parse? (String.ofList (writeMoment m)) = some m := by
  have hoffset : readOffsetMoment? (writeMoment m ++ []) = none := by
    by_cases hyear : IsPlainYear m.date.year
    · rw [readOffsetMoment?_writeMoment hyear hdate htime endsTime_nil]
      rfl
    · exact (readOffsetMoment?_of_not_isPlainYear hyear []).1
  have hread := readMoment?_written hdate htime endsTime_nil
  rw [List.append_nil] at hread hoffset
  rw [parse?, String.toList_ofList, hoffset, hread]
  rfl

theorem parse?_writeDate (hd : d.isValid = true) :
    parse? (String.ofList (writeDate d)) = some ⟨d, Time.midnight⟩ := by
  have hread := scanDate_writeDate hd []
  rw [List.append_nil] at hread
  have hmoment : readMoment? (writeDate d) = none := by
    simp [readMoment?, hread, skipBlank, scanChar]
  rw [parse?, String.toList_ofList, readOffsetMoment?_writeDate hd, hmoment, readDate?_written hd]
  rfl

theorem parse?_writeTime (ht : t.IsClock) :
    parse? (String.ofList (writeTime t)) = some ⟨Date.epoch, t⟩ := by
  have hmoment : readMoment? (writeTime t) = none := by
    simp [readMoment?, scanDate_writeTime ht]
  have hdate : readDate? (writeTime t) = none := by
    simp [readDate?, scanDate_writeTime ht]
  rw [parse?, String.toList_ofList, readOffsetMoment?_writeTime ht, hmoment, hdate,
    readTime?_written ht]
  rfl

/-- Universal time is only read by the reader of offsets, which takes four digits for a year. -/
theorem parse?_writeUniversal (hdate : m.date.isValid = true) (htime : m.time.IsClock) :
    parse? (String.ofList (writeUniversal "Z" m)) =
      if IsPlainYear m.date.year then some m else none := by
  have hmark : EndsTime ['Z'] := by
    intro c hc
    cases hc
    decide
  have hmoment := readMoment?_written hdate htime hmark
  rw [parse?, String.toList_ofList, writeUniversal]
  split
  · rename_i hyear
    have hread := readOffsetMoment?_writeMoment hyear hdate htime hmark
    simp [hread, scanOffset, Moment.shift_zero hdate htime.valid]
  · rename_i hyear
    obtain ⟨hoffset, hclock⟩ := readOffsetMoment?_of_not_isPlainYear hyear ['Z']
    have hday : readDate? (writeMoment m ++ ['Z']) = none := by
      have hscan := scanDate_writeDate hdate ('T' :: (writeTime m.time ++ ['Z']))
      rw [skipBlank_cons (by decide)] at hscan
      simp [readDate?, writeMoment, hscan]
    simp [hoffset, hmoment, hday, hclock]

/-! Dates and times in JSON -/

/-- The characters of dates and times, none of which is special in HTML. -/
def isClockChar (c : Char) : Bool :=
  c.isDigit || c = '-' || c = '+' || c = ':' || c = '.' || c = 'T' || c = 'Z'

theorem all_padded (width n : Nat) : (padded width n).all isClockChar = true := by
  rw [List.all_eq_true]
  intro c hc
  simp [isClockChar, isDigit_of_mem_padded hc]

theorem all_writeDate (d : Date) : (writeDate d).all isClockChar = true := by
  have hyear : (writeYear d.year).all isClockChar = true := by
    unfold writeYear
    split
    · exact all_padded _ _
    · split
      all_goals simp [all_padded, isClockChar]
  simp [writeDate, hyear, all_padded, isClockChar]

theorem all_writeTime (t : Time) : (writeTime t).all isClockChar = true := by
  have hfraction : ∀ n, (writeFraction n).all isClockChar = true := by
    intro n
    unfold writeFraction
    split
    · rfl
    · split
      · simp [all_padded, isClockChar]
      · split
        all_goals simp [all_padded, isClockChar]
  simp [writeTime, writeClock, hfraction, all_padded, isClockChar]

theorem all_writeMoment (m : Moment) : (writeMoment m).all isClockChar = true := by
  simp [writeMoment, all_writeDate, all_writeTime, isClockChar]

theorem all_writeUniversal (m : Moment) : (writeUniversal "Z" m).all isClockChar = true := by
  simp [writeUniversal, all_writeMoment, isClockChar]

theorem escapeHtml_of_all (h : cs.all isClockChar = true) :
    Json.escapeHtml (String.ofList cs) = String.ofList cs := by
  refine Json.escapeHtml_of_forall ?_
  rw [String.toList_ofList]
  intro c hc hmark
  have hclock := List.all_eq_true.mp h c hc
  simp only [Json.entityMarks, List.mem_cons, List.not_mem_nil, or_false] at hmark
  rcases hmark with rfl | rfl | rfl | rfl | rfl
  all_goals cases hclock

/-- Whether the JSON that is written for a text, in every style, is read as a text that stands for
the given moment, or for none. -/
def ReadsAs (cs : List Char) (moment : Option Moment) : Prop :=
  ∀ style : Style, ∃ json s, (Document.text (String.ofList cs)).render style = .ok json ∧
    Value.parse json = .ok (.text s) ∧ parse? s = moment

theorem readsAs_of_all (h : cs.all isClockChar = true) :
    ReadsAs cs (parse? (String.ofList cs)) := by
  intro style
  have hvalue : (if style.escapeHtml then (Value.text (String.ofList cs)).sorted.escaped
      else .text (String.ofList cs)) = .text (String.ofList cs) := by
    split
    · exact congrArg Value.text (escapeHtml_of_all h)
    · rfl
  have hdepth : (Value.text (String.ofList cs)).depth < Json.depthLimit := by
    simp [Value.depth, Json.depthLimit]
  refine ⟨(Value.text (String.ofList cs)).render style.indent, String.ofList cs, ?_, ?_, rfl⟩
  · exact congrArg (fun v => Except.ok (Value.render v style.indent)) hvalue
  · exact Value.parse_render style.indent rfl hdepth

theorem ReadsAs.unique {one other : Option Moment} (hone : ReadsAs cs one)
    (hother : ReadsAs cs other) :
    one = other := by
  obtain ⟨json, s, hjson, hs, hread⟩ := hone {}
  obtain ⟨json', s', hjson', hs', hread'⟩ := hother {}
  rw [hjson] at hjson'
  cases hjson'
  rw [hs] at hs'
  cases hs'
  rw [← hread, ← hread']

/-- A moment without an offset, a date and a time of day are read back from the JSON that is written
for them: the moment as it was, the date as its midnight, and the time as on the epoch. -/
theorem written_moments_come_back (d : Date) (t : Time) (hd : d.isValid = true) (ht : t.IsClock) :
    ReadsAs (writeMoment ⟨d, t⟩) (some ⟨d, t⟩) ∧ ReadsAs (writeDate d) (some ⟨d, Time.midnight⟩) ∧
      ReadsAs (writeTime t) (some ⟨Date.epoch, t⟩) := by
  have hmoment := readsAs_of_all (all_writeMoment ⟨d, t⟩)
  have hdate := readsAs_of_all (all_writeDate d)
  have htime := readsAs_of_all (all_writeTime t)
  rw [parse?_writeMoment hd ht] at hmoment
  rw [parse?_writeDate hd] at hdate
  rw [parse?_writeTime ht] at htime
  exact ⟨hmoment, hdate, htime⟩

/-- A leap second at the end of the first year of all, which has a sign and six digits. -/
theorem written_moments_come_back_of_far_leap_second :
    let d : Date := ⟨-262143, 12, 31⟩
    let t : Time := ⟨23, 59, 59, 1000000001⟩
    String.ofList (writeMoment ⟨d, t⟩) = "-262143-12-31T23:59:60.000000001" ∧
    ReadsAs (writeMoment ⟨d, t⟩) (some ⟨d, t⟩) ∧ ReadsAs (writeDate d) (some ⟨d, Time.midnight⟩) ∧
      ReadsAs (writeTime t) (some ⟨Date.epoch, t⟩) :=
  ⟨by decide, written_moments_come_back _ _ (by decide) ⟨by decide, fun _ => rfl⟩⟩

/-- Universal time is read back from the JSON that is written for it exactly if its year is written
with four digits; otherwise it is not read at all. -/
theorem universal_time_comes_back_iff (m : Moment) (hdate : m.date.isValid = true)
    (htime : m.time.IsClock) :
    ReadsAs (writeUniversal "Z" m)
      (if 0 ≤ m.date.year ∧ m.date.year ≤ 9999 then some m else none) := by
  have hread := readsAs_of_all (all_writeUniversal m)
  rw [parse?_writeUniversal hdate htime] at hread
  exact hread

/-- A leap second in a year of four digits, and the first moment of a year of five. -/
theorem universal_time_comes_back_iff_of_two_years :
    let leap : Moment := ⟨⟨2016, 12, 31⟩, ⟨23, 59, 59, 1500000000⟩⟩
    let far : Moment := ⟨⟨10000, 1, 1⟩, Time.midnight⟩
    String.ofList (writeUniversal "Z" leap) = "2016-12-31T23:59:60.500Z" ∧
      ReadsAs (writeUniversal "Z" leap) (some leap) ∧
      String.ofList (writeUniversal "Z" far) = "+10000-01-01T00:00:00Z" ∧
      ReadsAs (writeUniversal "Z" far) none :=
  ⟨by decide, universal_time_comes_back_iff _ (by decide) ⟨by decide, fun _ => rfl⟩,
    by decide,
    universal_time_comes_back_iff _ (by decide) ⟨by decide, fun h => absurd h (by decide)⟩⟩

/-- The last second of the year before year zero is written with a sign, which the reader of offsets
does not take. -/
theorem second_before_year_zero_is_not_read :
    let m : Moment := ⟨⟨-1, 12, 31⟩, ⟨23, 59, 59, 0⟩⟩
    m.date.isValid = true ∧ m.time.IsClock ∧
      String.ofList (writeUniversal "Z" m) = "-0001-12-31T23:59:59Z" ∧
      parse? "-0001-12-31T23:59:59Z" = none ∧ ¬ ReadsAs (writeUniversal "Z" m) (some m) := by
  intro m
  have htext : String.ofList (writeUniversal "Z" m) = "-0001-12-31T23:59:59Z" := by decide
  have hread : parse? "-0001-12-31T23:59:59Z" = none := by decide
  have hnone := readsAs_of_all (all_writeUniversal m)
  rw [htext, hread] at hnone
  refine ⟨by decide, ⟨by decide, fun h => absurd h (by decide)⟩, htext, hread, ?_⟩
  intro hsome
  cases hnone.unique hsome

end WebService.Calendar
