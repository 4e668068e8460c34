import WebService.Proofs.Calendar.RoundTrip
import WebService.Proofs.Request.Arguments
import WebService.Request.Argument

/-!
Moments as they are written at an offset from universal time. At whatever offset and with whatever
number of decimals a moment is written, it is read as the same moment of universal time.
-/
namespace WebService.Calendar

open Number (natOfDigits)

variable {m : Moment} {t : Time} {cs rest : List Char} {offset seconds : Int} {n : Nat}

/-! Moments shifted -/

theorem Time.isValid_ofSeconds (hseconds : n < 86400) {nanosecond : Nat}
    (hnano : nanosecond < 2000000000) : (Time.ofSeconds n nanosecond).isValid = true := by
  rw [Time.isValid_iff]
  simp only [ofSeconds]
  omega

theorem Time.toSeconds_ofSeconds (n nanosecond : Nat) :
    (Time.ofSeconds n nanosecond).toSeconds = n := by
  simp only [ofSeconds, toSeconds]
  omega

namespace Moment

theorem toSeconds_ofSeconds (seconds : Int) (nanosecond : Nat) :
    (ofSeconds seconds nanosecond).toSeconds = seconds := by
  rw [ofSeconds, toSeconds, Date.toDays_ofDays, Time.toSeconds_ofSeconds]
  omega

theorem nanosecond_shift (m : Moment) (seconds : Int) :
    (m.shift seconds).time.nanosecond = m.time.nanosecond := rfl

theorem shift_shift (m : Moment) (seconds others : Int) :
    (m.shift seconds).shift others = m.shift (seconds + others) := by
  rw [shift, shift, toSeconds_ofSeconds, Int.add_assoc]
  rfl

/-- A moment that is shifted back is what it was. -/
theorem shift_back (h : m.isValid = true) (seconds : Int) :
    (m.shift seconds).shift (-seconds) = m := by
  obtain ⟨hdate, htime⟩ := Bool.and_eq_true_iff.mp h
  rw [shift_shift, Int.add_right_neg, shift_zero hdate htime]

/-- A moment shifted into a year of four digits exists, and its time is that of a clock. -/
theorem shift_exists (hnano : m.time.nanosecond < 1000000000)
    (hyear : IsPlainYear (m.shift seconds).date.year) :
    (m.shift seconds).date.isValid = true ∧ (m.shift seconds).time.IsClock := by
  refine ⟨Date.isValid_ofDays ⟨?_, ?_⟩, Time.isValid_ofSeconds (by omega) (by omega), ?_⟩
  · exact Int.le_trans (by decide) hyear.1
  · exact Int.le_trans hyear.2 (by decide)
  · intro hleap
    exact absurd hnano (Nat.not_lt.mpr hleap)

end Moment

/-! What is written at an offset -/

/-- Decimals of a second: none if there are no nanoseconds, or one to nine digits behind a point. -/
def IsFraction (nanosecond : Nat) (cs : List Char) : Prop :=
  cs = [] ∧ nanosecond = 0 ∨ ∃ ds, cs = '.' :: ds ∧ (1 ≤ ds.length ∧ ds.length ≤ 9) ∧
    (∀ d ∈ ds, d.isDigit = true) ∧ natOfDigits ds * 10 ^ (9 - ds.length) = nanosecond

def writeZone (sign : Char) (minutes : Nat) : List Char :=
  sign :: (padded 2 (minutes / 60) ++ ':' :: padded 2 (minutes % 60))

/-- How an offset of whole minutes is written, where either sign may stand before zero. -/
inductive IsZone : Int → List Char → Prop
  | universal {c : Char} (hc : c = 'Z' ∨ c = 'z') : IsZone 0 [c]
  | ahead {minutes : Nat} (h : minutes < 1440) : IsZone minutes (writeZone '+' minutes)
  | behind {minutes : Nat} (h : minutes < 1440) : IsZone (-minutes) (writeZone '-' minutes)

/-- Whether a text tells a moment of universal time by the date and the time at an offset of some
minutes, with decimals that denote its nanoseconds. -/
def Moment.IsWrittenAt (m : Moment) (offset : Int) (text : String) : Prop :=
  let shown := m.shift (60 * offset)
  ∃ mark fraction zone, IsTimeMark mark ∧ IsFraction m.time.nanosecond fraction ∧
    IsZone offset zone ∧
    text =
      String.ofList (writeDate shown.date ++ mark :: (writeClock shown.time ++ (fraction ++ zone)))

theorem isFraction_writeFraction (h : n < 1000000000) : IsFraction n (writeFraction n) := by
  -- Each number of places is tried in turn; the digits behind the point fill it.
  have hplaces : ∀ {width k : Nat}, 1 ≤ width → width ≤ 9 → k < 10 ^ width →
      k * 10 ^ (9 - width) = n → IsFraction n ('.' :: padded width k) := by
    intro width k hleast hmost hk hvalue
    have hlength := length_padded hleast hk
    refine Or.inr ⟨padded width k, rfl, by omega, fun _ => isDigit_of_mem_padded, ?_⟩
    rw [hlength, natOfDigits_padded, hvalue]
  unfold writeFraction
  split
  · exact Or.inl ⟨rfl, by assumption⟩
  · split
    · exact hplaces (by decide) (by decide) (by omega) (by omega)
    · split
      · exact hplaces (by decide) (by decide) (by omega) (by omega)
      · exact hplaces (by decide) (by decide) (by omega) (by omega)

theorem exists_isZone (h : -1440 < offset ∧ offset < 1440) : ∃ zone, IsZone offset zone := by
  rcases Int.le_total 0 offset with hahead | hbehind
  · obtain ⟨minutes, rfl⟩ := Int.eq_ofNat_of_zero_le hahead
    exact ⟨_, .ahead (by omega)⟩
  · obtain ⟨minutes, hminutes⟩ := Int.eq_ofNat_of_zero_le (Int.neg_nonneg_of_nonpos hbehind)
    have hoffset : offset = -(minutes : Int) := by omega
    rw [hoffset]
    exact ⟨_, .behind (by omega)⟩

theorem Moment.exists_isWrittenAt (hnano : m.time.nanosecond < 1000000000)
    (hoffset : -1440 < offset ∧ offset < 1440) : ∃ text, m.IsWrittenAt offset text := by
  obtain ⟨zone, hzone⟩ := exists_isZone hoffset
  exact ⟨_, 'T', _, zone, Or.inl rfl, isFraction_writeFraction hnano, hzone, rfl⟩

/-! What is read -/

theorem IsZone.endsTime (h : IsZone offset cs) : EndsTime cs := by
  have hsign : ∀ {c : Char} {cs : List Char}, c ∈ ['Z', 'z', '+', '-'] → EndsTime (c :: cs) := by
    intro c cs hc d hd
    cases hd
    simp only [List.mem_cons, List.not_mem_nil, or_false] at hc
    rcases hc with rfl | rfl | rfl | rfl <;> decide
  cases h with
  | universal hc => exact hsign (by rcases hc with rfl | rfl <;> decide)
  | ahead _ => exact hsign (by decide)
  | behind _ => exact hsign (by decide)

theorem scanFraction_of_isFraction (h : IsFraction n cs) (hrest : EndsTime rest) :
    scanFraction (cs ++ rest) = some (n, rest) := by
  rcases h with ⟨rfl, rfl⟩ | ⟨ds, rfl, ⟨hleast, hmost⟩, hdigits, hvalue⟩
  · exact scanFraction_of_endsTime hrest
  · have hread := scanDigits_append hdigits hleast hmost (Or.inr hrest.endsDigits)
    simp [scanFraction, hread, hrest.endsDigits.dropWhile, hvalue]

theorem scanOffset_writeZone {sign : Char} (hsign : sign = '+' ∨ sign = '-') {minutes : Nat}
    (h : minutes < 1440) : scanOffset (writeZone sign minutes) =
      some (if sign = '+' then 60 * (minutes : Int) else -(60 * (minutes : Int)), []) := by
  have hhours := scanDigits_padded (by decide : 0 < 2) (show minutes / 60 < 10 ^ 2 by omega)
    (':' :: padded 2 (minutes % 60))
  have hminutes := scanDigits_padded (by decide : 0 < 2) (show minutes % 60 < 10 ^ 2 by omega) []
  rw [List.append_nil] at hminutes
  rcases hsign with rfl | rfl
  all_goals
    simp [writeZone, scanOffset, hhours, hminutes, scanChar_self]
    omega

theorem scanOffset_of_isZone (h : IsZone offset cs) : scanOffset cs = some (60 * offset, []) := by
  cases h with
  | universal hc => rcases hc with rfl | rfl <;> rfl
  | ahead h => rw [scanOffset_writeZone (Or.inl rfl) h, if_pos rfl]
  | behind h => rw [scanOffset_writeZone (Or.inr rfl) h, if_neg (by decide), Int.mul_neg]

theorem parse?_of_isWrittenAt (hvalid : m.isValid = true) (hnano : m.time.nanosecond < 1000000000)
    (hyear : IsPlainYear (m.shift (60 * offset)).date.year) {text : String}
    (h : m.IsWrittenAt offset text) : parse? text = some m := by
  obtain ⟨mark, fraction, zone, hmark, hfraction, hzone, rfl⟩ := h
  obtain ⟨hdate, htime⟩ := Moment.shift_exists hnano hyear
  have hshown : (shownSecond (m.shift (60 * offset)).time).2 = m.time.nanosecond := by
    rw [shownSecond, Moment.nanosecond_shift, if_pos hnano]
  have hdecimals := scanFraction_of_isFraction hfraction hzone.endsTime
  rw [← hshown] at hdecimals
  have hread := readOffsetMoment?_written hmark hyear hdate htime hdecimals
  rw [scanOffset_of_isZone hzone] at hread
  rw [parse?, String.toList_ofList, hread]
  exact congrArg some (Moment.shift_back hvalid (60 * offset))

/-- A moment that is written at an offset of less than a day is read as the same moment of universal
time as without the offset, whichever decimals denote its nanoseconds, and so is the argument of a
query that is such a text. -/
theorem offset_tells_same_moment (m : Moment) (offset : Int) (hvalid : m.isValid = true)
    (hleap : m.time.nanosecond < 1000000000) (hoffset : -1440 < offset ∧ offset < 1440)
    (hyear : IsPlainYear m.date.year) (hlocal : IsPlainYear (m.shift (60 * offset)).date.year) :
    (∃ text, m.IsWrittenAt offset text) ∧ ∀ text, m.IsWrittenAt offset text →
      parse? text = parse? (String.ofList (writeUniversal "Z" m)) ∧ parse? text = some m ∧
      ∀ (method : Method) (path : String) (pairs : List (String × String)) (key : String),
        '?' ∉ path.toList → (pairs.find? fun pair => pair.1 = key).map (·.2) = some text →
        (Request.new method (path ++ "?" ++ Text.encodeForm pairs)).getMoment key =
          .ok (some m) := by
  refine ⟨Moment.exists_isWrittenAt hleap hoffset, fun text htext => ?_⟩
  have hread := parse?_of_isWrittenAt hvalid hleap hlocal htext
  obtain ⟨hdate, htime⟩ := Bool.and_eq_true_iff.mp hvalid
  have hclock : m.time.IsClock := ⟨htime, fun h => absurd hleap (Nat.not_lt.mpr h)⟩
  refine ⟨?_, hread, ?_⟩
  · rw [hread, parse?_writeUniversal hdate hclock, if_pos hyear]
  · intro method path pairs key hpath hpair
    rw [Request.getMoment, Request.readArg, Request.arg?_eq_find?, Request.args_new hpath, hpair]
    simp only [hread]

/-- The last half hour of a leap day, which is already the first of March further east. -/
theorem offset_tells_same_moment_of_leap_day :
    let m : Moment := ⟨⟨2024, 2, 29⟩, ⟨23, 30, 0, 500000000⟩⟩
    let text := "2024-03-01T05:15:00.50+05:45"
    let target := "/log?when=2024-03-01T05%3A15%3A00.50%2B05%3A45"
    m.IsWrittenAt 345 text ∧ parse? text = some m ∧
      (Request.new Method.get target).getMoment "when" = .ok (some m) := by
  intro m text target
  have hwritten : m.IsWrittenAt 345 text := by
    refine ⟨'T', ".50".toList, "+05:45".toList, Or.inl rfl, Or.inr ⟨['5', '0'], rfl, ?_, ?_, ?_⟩,
      ?_, ?_⟩
    · decide
    · exact List.all_eq_true.mp (by decide)
    · decide
    · have hminutes : 345 < 1440 := by decide
      exact .ahead hminutes
    · decide
  have hall := (offset_tells_same_moment m 345 (by decide) (by decide) (by decide) (by decide)
    (by decide)).2 text hwritten
  exact ⟨hwritten, hall.2.1, hall.2.2 Method.get "/log" [("when", text)] "when" (by decide) rfl⟩

end WebService.Calendar
