import WebService.Calendar.Date

/-!
Days counted from the epoch. Every date is the date of its own number of days.
-/
namespace WebService.Calendar.Date

variable {d : Date} {year : Int} {month : Nat}

theorem isValid_iff : d.isValid = true ↔ (firstYear ≤ d.year ∧ d.year ≤ lastYear) ∧
    1 ≤ d.day ∧ d.day ≤ daysInMonth d.year d.month := by
  simp only [isValid, Bool.and_eq_true, decide_eq_true_iff, and_assoc]

theorem make?_of_isValid (h : d.isValid = true) : make? d.year d.month d.day = some d := if_pos h

/-! Months -/

theorem month_of_daysInMonth_pos (h : 0 < daysInMonth year month) : 1 ≤ month ∧ month ≤ 12 := by
  unfold daysInMonth at h
  split at h
  all_goals omega

theorem daysInMonth_le_31 (year : Int) (month : Nat) : daysInMonth year month ≤ 31 := by
  unfold daysInMonth
  split
  all_goals first | split | skip
  all_goals omega

/-- Counted from March, five months have 153 days, so that this is where the next month begins. -/
theorem daysInMonth_le (year : Int) (month : Nat) :
    (daysInMonth year month : Int) ≤
      (153 * (((month : Int) + 9) % 12 + 1) + 2) / 5 -
        (153 * (((month : Int) + 9) % 12) + 2) / 5 := by
  unfold daysInMonth
  split
  all_goals first | split | skip
  all_goals omega

theorem isLeap_iff : isLeap year = true ↔ year % 4 = 0 ∧ (year % 100 ≠ 0 ∨ year % 400 = 0) := by
  simp [isLeap]

/-- Only a leap year has a last day of February. -/
theorem february_of_le {day : Nat} (h : day ≤ daysInMonth year 2) :
    day ≤ 29 ∧ (day = 29 → isLeap year = true) := by
  rw [daysInMonth] at h
  split at h
  · rename_i hleap
    exact ⟨h, fun _ => hleap⟩
  · omega

theorem le_february {day : Nat} (h : day ≤ 29) (hleap : day = 29 → isLeap year = true) :
    day ≤ daysInMonth year 2 := by
  rw [daysInMonth]
  split
  · exact h
  · rename_i hcommon
    have hlast : day ≠ 29 := fun hlast => hcommon (hleap hlast)
    omega

theorem month_of_day {m day n : Int} (hday : 1 ≤ day)
    (hmonth : day ≤ (153 * (m + 1) + 2) / 5 - (153 * m + 2) / 5)
    (hn : n = (153 * m + 2) / 5 + day - 1) :
    (5 * n + 2) / 153 = m ∧ n - (153 * m + 2) / 5 + 1 = day := by
  omega

/-- A year that begins in March ends with the leap day if it has one. -/
theorem day_of_year {m day n : Int} (hm : 0 ≤ m ∧ m ≤ 11) (hday : 1 ≤ day)
    (hmonth : day ≤ (153 * (m + 1) + 2) / 5 - (153 * m + 2) / 5) (hshort : m = 11 → day ≤ 29)
    (hn : n = (153 * m + 2) / 5 + day - 1) :
    (0 ≤ n ∧ n ≤ 365) ∧ (n = 365 → m = 11 ∧ day = 29) := by
  omega

/-! Years -/

section

variable {c q r n days : Int}

theorem day_of_century (hq : 0 ≤ q ∧ q ≤ 24) (hr : 0 ≤ r ∧ r ≤ 3) (hn : 0 ≤ n ∧ n ≤ 365)
    (hleap : n = 365 → r = 3 ∧ (q = 24 → c = 3)) :
    0 ≤ 1461 * q + 365 * r + n ∧
      (1461 * q + 365 * r + n ≤ 36523 ∨ 1461 * q + 365 * r + n = 36524 ∧ c = 3) := by
  omega

theorem day_of_era (hc : 0 ≤ c ∧ c ≤ 3) (hq : 0 ≤ q ∧ q ≤ 24) (hr : 0 ≤ r ∧ r ≤ 3)
    (hn : 0 ≤ n ∧ n ≤ 365) (hleap : n = 365 → r = 3 ∧ (q = 24 → c = 3))
    (hdays : days = 36524 * c + 1461 * q + 365 * r + n) : 0 ≤ days ∧ days < 146097 := by
  have hcentury := day_of_century hq hr hn hleap
  omega

theorem days_of_years (hq : 0 ≤ q ∧ q ≤ 24) (hr : 0 ≤ r ∧ r ≤ 3) :
    365 * (100 * c + 4 * q + r) + (100 * c + 4 * q + r) / 4 - (100 * c + 4 * q + r) / 100 =
      36524 * c + 1461 * q + 365 * r := by
  omega

/-- The year is found from the days of its era, which are those of its centuries, of the groups of
four years in the last of them and of single years. -/
theorem year_of_day (hc : 0 ≤ c ∧ c ≤ 3) (hq : 0 ≤ q ∧ q ≤ 24) (hr : 0 ≤ r ∧ r ≤ 3)
    (hn : 0 ≤ n ∧ n ≤ 365) (hleap : n = 365 → r = 3 ∧ (q = 24 → c = 3))
    (hdays : days = 36524 * c + 1461 * q + 365 * r + n) :
    (days - days / 1460 + days / 36524 - days / 146096) / 365 = 100 * c + 4 * q + r := by
  have hcenturies : days / 36524 - days / 146096 = c := by
    obtain ⟨hfirst, hshort | ⟨hlast, rfl⟩⟩ := day_of_century hq hr hn hleap
    · have hfull : days / 36524 = c := by omega
      have hnone : days / 146096 = 0 := by omega
      omega
    · have hera : days = 146096 := by omega
      rw [hera]
      rfl
  have hfours : days / 1460 = 25 * c + q + (24 * c + q + 365 * r + n) / 1460 := by
    have hsum : days = 1460 * (25 * c + q) + (24 * c + q + 365 * r + n) := by omega
    rw [hsum, Int.mul_add_ediv_left]
    omega
  have hcarry : 0 ≤ n - (24 * c + q + 365 * r + n) / 1460 ∧
      n - (24 * c + q + 365 * r + n) / 1460 ≤ 364 := by
    omega
  omega

end

/-- The leap day ends the year before a leap year: the last of four years, and not the last of a
century unless that is the last of its era. -/
theorem place_of_isLeap (h : isLeap (year + 1) = true) :
    year % 400 % 4 = 3 ∧ (year % 400 % 100 / 4 = 24 → year % 400 / 100 = 3) := by
  have hleap := isLeap_iff.mp h
  omega

/-! Dates -/

/-- The date of a day that is given by its place in an era, a year and a month from March. -/
theorem ofDays_of_parts (era m day : Int) {c q r : Int} (hc : 0 ≤ c ∧ c ≤ 3) (hq : 0 ≤ q ∧ q ≤ 24)
    (hr : 0 ≤ r ∧ r ≤ 3) (hm : 0 ≤ m ∧ m ≤ 11) (hday : 1 ≤ day)
    (hmonth : day ≤ (153 * (m + 1) + 2) / 5 - (153 * m + 2) / 5) (hshort : m = 11 → day ≤ 29)
    (hleap : m = 11 → day = 29 → r = 3 ∧ (q = 24 → c = 3)) :
    let month := if m < 10 then m + 3 else m - 9
    ofDays (era * 146097 +
        (36524 * c + 1461 * q + 365 * r + ((153 * m + 2) / 5 + day - 1)) - 719468) =
      ⟨era * 400 + (100 * c + 4 * q + r) + (if month ≤ 2 then 1 else 0), month.toNat,
        day.toNat⟩ := by
  have hfirst := days_of_years (c := c) hq hr
  generalize hn : (153 * m + 2) / 5 + day - 1 = n
  generalize hdays : 36524 * c + 1461 * q + 365 * r + n = days
  obtain ⟨hyear, hend⟩ := day_of_year hm hday hmonth hshort hn.symm
  have hlast : n = 365 → r = 3 ∧ (q = 24 → c = 3) := fun h => hleap (hend h).1 (hend h).2
  have hera := day_of_era hc hq hr hyear hlast hdays.symm
  have hyears := year_of_day hc hq hr hyear hlast hdays.symm
  obtain ⟨hmonths, hdate⟩ := month_of_day hday hmonth hn.symm
  have hbehind : days - (36524 * c + 1461 * q + 365 * r) = n := by omega
  have hsum : era * 146097 + days - 719468 + 719468 = days + era * 146097 := by omega
  have hinto : (days + era * 146097) / 146097 = era := by
    rw [Int.add_mul_ediv_right _ _ (by decide), Int.ediv_eq_zero_of_lt hera.1 hera.2, Int.zero_add]
  have hrest : (days + era * 146097) % 146097 = days := by
    rw [Int.add_mul_emod_self_right, Int.emod_eq_of_lt hera.1 hera.2]
  simp only [ofDays, hsum, hinto, hrest, hyears, hfirst, hbehind, hmonths, hdate]

/-- A date is found again by its number of days. -/
theorem ofDays_toDays (h : d.isValid = true) : ofDays d.toDays = d := by
  obtain ⟨year, month, day⟩ := d
  obtain ⟨-, hday, hlength⟩ := isValid_iff.mp h
  simp only at hday hlength
  obtain ⟨hfirst, hlast⟩ := month_of_daysInMonth_pos (Nat.lt_of_lt_of_le hday hlength)
  have hfebruary : month = 2 → day ≤ 29 ∧ (day = 29 → isLeap year = true) := by
    rintro rfl
    exact february_of_le hlength
  have hmonth := daysInMonth_le year month
  -- The year from March on to which the date belongs, and its place among the years of its era.
  generalize hy : (if month ≤ 2 then year - 1 else year) = y
  generalize hm : ((month : Int) + 9) % 12 = m at hmonth
  have hq : 0 ≤ y % 400 % 100 / 4 ∧ y % 400 % 100 / 4 ≤ 24 := by omega
  have hr : 0 ≤ y % 400 % 4 ∧ y % 400 % 4 ≤ 3 := by omega
  have hplace : 100 * (y % 400 / 100) + 4 * (y % 400 % 100 / 4) + y % 400 % 4 = y % 400 := by omega
  have hyears := days_of_years (c := y % 400 / 100) hq hr
  rw [hplace] at hyears
  have hshort : m = 11 → (day : Int) ≤ 29 := by omega
  have hleap : m = 11 → (day : Int) = 29 →
      y % 400 % 4 = 3 ∧ (y % 400 % 100 / 4 = 24 → y % 400 / 100 = 3) := by
    intro hlate hend
    have hmonth : month = 2 := by omega
    have hnext : year = y + 1 := by omega
    exact place_of_isLeap (hnext ▸ (hfebruary hmonth).2 (by omega))
  have hparts := ofDays_of_parts (y / 400) m day (by omega) hq hr (by omega) (by omega) (by omega)
    hshort hleap
  have hdays : toDays ⟨year, month, day⟩ = y / 400 * 146097 + (36524 * (y % 400 / 100) +
      1461 * (y % 400 % 100 / 4) + 365 * (y % 400 % 4) + ((153 * m + 2) / 5 + day - 1)) -
        719468 := by
    simp only [toDays, hy, hm]
    omega
  have hnumber : (if m < 10 then m + 3 else m - 9) = (month : Int) := by omega
  have hwhole : y / 400 * 400 + y % 400 + (if (month : Int) ≤ 2 then 1 else 0) = year := by omega
  rw [hdays, hparts, hplace, hnumber, hwhole, Int.toNat_natCast, Int.toNat_natCast]

/-! Numbers of days -/

/-- Each day of an era has its place in a century, a group of four years and a year. -/
theorem exists_year_of_day {days : Int} (h : 0 ≤ days ∧ days < 146097) :
    ∃ c q r n : Int, (0 ≤ c ∧ c ≤ 3) ∧ (0 ≤ q ∧ q ≤ 24) ∧ (0 ≤ r ∧ r ≤ 3) ∧ (0 ≤ n ∧ n ≤ 365) ∧
      (n = 365 → r = 3 ∧ (q = 24 → c = 3)) ∧ days = 36524 * c + 1461 * q + 365 * r + n := by
  -- The last century of an era and the last of four years have a day more, which begins no other.
  obtain ⟨c, hc, hcentury, hlast⟩ : ∃ c : Int, (0 ≤ c ∧ c ≤ 3) ∧
      (36524 * c ≤ days ∧ days ≤ 36524 * c + 36524) ∧ (days = 36524 * c + 36524 → c = 3) := by
    by_cases hend : days = 146096
    · exact ⟨3, by omega, by omega, by omega⟩
    · exact ⟨days / 36524, by omega, by omega, by omega⟩
  generalize hrest : days - 36524 * c = rest
  have hq : 0 ≤ rest / 1461 ∧ rest / 1461 ≤ 24 := by omega
  generalize hfour : rest % 1461 = four
  have hfours : 0 ≤ four ∧ four ≤ 1460 := by omega
  obtain ⟨r, hr, hyear, hleap⟩ : ∃ r : Int, (0 ≤ r ∧ r ≤ 3) ∧
      (365 * r ≤ four ∧ four ≤ 365 * r + 365) ∧ (four = 365 * r + 365 → r = 3) := by
    by_cases hend : four = 1460
    · exact ⟨3, by omega, by omega, by omega⟩
    · exact ⟨four / 365, by omega, by omega, by omega⟩
  refine ⟨c, rest / 1461, r, four - 365 * r, hc, hq, hr, by omega, ?_, by omega⟩
  intro hn
  have hthird := hleap (by omega)
  exact ⟨hthird, fun hlate => hlast (by omega)⟩

/-- Each day of a year that begins in March has its place in a month. -/
theorem exists_month_of_day {n : Int} (h : 0 ≤ n ∧ n ≤ 365) :
    ∃ m day : Int, (0 ≤ m ∧ m ≤ 11) ∧ 1 ≤ day ∧
      day ≤ (153 * (m + 1) + 2) / 5 - (153 * m + 2) / 5 ∧ (m = 11 → day ≤ 29) ∧
      (m = 11 → day = 29 → n = 365) ∧ n = (153 * m + 2) / 5 + day - 1 := by
  refine ⟨(5 * n + 2) / 153, n - (153 * ((5 * n + 2) / 153) + 2) / 5 + 1, ?_, ?_, ?_, ?_, ?_, ?_⟩
  all_goals omega

/-- Every month but the last from March on has all the days until the next one begins. -/
theorem le_daysInMonth {m day : Int} (hm : 0 ≤ m ∧ m ≤ 10)
    (hday : day ≤ (153 * (m + 1) + 2) / 5 - (153 * m + 2) / 5) (year : Int) :
    day ≤ daysInMonth year (if m < 10 then m + 3 else m - 9).toNat := by
  have hcases : m = 0 ∨ m = 1 ∨ m = 2 ∨ m = 3 ∨ m = 4 ∨ m = 5 ∨ m = 6 ∨ m = 7 ∨ m = 8 ∨ m = 9 ∨
      m = 10 := by omega
  rcases hcases with rfl | rfl | rfl | rfl | rfl | rfl | rfl | rfl | rfl | rfl | rfl
  all_goals exact hday

/-- A date that is found from a number of days exists, in whatever year, and has this number. -/
theorem ofDays_exists (days : Int) :
    (ofDays days).toDays = days ∧ 1 ≤ (ofDays days).day ∧
      (ofDays days).day ≤ daysInMonth (ofDays days).year (ofDays days).month := by
  generalize hera : (days + 719468) / 146097 = era
  have hplaced : 0 ≤ (days + 719468) % 146097 ∧ (days + 719468) % 146097 < 146097 := by omega
  obtain ⟨c, q, r, n, hc, hq, hr, hn, hleap, hplace⟩ := exists_year_of_day hplaced
  obtain ⟨m, day, hm, hday, hmonth, hshort, hend, hparts⟩ := exists_month_of_day hn
  have hyears := days_of_years (c := c) hq hr
  have hdays : days = era * 146097 + (36524 * c + 1461 * q + 365 * r +
      ((153 * m + 2) / 5 + day - 1)) - 719468 := by omega
  have hdate := ofDays_of_parts era m day hc hq hr hm hday hmonth hshort
    fun hlate hlast => hleap (hend hlate hlast)
  rw [← hdays] at hdate
  rw [hdate]
  dsimp only
  generalize hnumber : (if m < 10 then m + 3 else m - 9) = month
  generalize hyear : era * 400 + (100 * c + 4 * q + r) + (if month ≤ 2 then 1 else 0) = year
  refine ⟨?_, by omega, ?_⟩
  · have hback : ((month.toNat : Int) + 9) % 12 = m := by omega
    have hstart : (if month.toNat ≤ 2 then year - 1 else year) =
        era * 400 + (100 * c + 4 * q + r) := by omega
    have hinto : (era * 400 + (100 * c + 4 * q + r)) / 400 = era := by omega
    have hrest : (era * 400 + (100 * c + 4 * q + r)) % 400 = 100 * c + 4 * q + r := by omega
    simp only [toDays, hstart, hback, hinto, hrest]
    omega
  · by_cases hlate : m = 11
    · have hsecond : month.toNat = 2 := by omega
      rw [hsecond]
      refine le_february (by omega) fun hlast => isLeap_iff.mpr ?_
      obtain ⟨hthird, hlastFour⟩ := hleap (hend hlate (by omega))
      omega
    · have hlength := le_daysInMonth (by omega : 0 ≤ m ∧ m ≤ 10) hmonth year
      rw [hnumber] at hlength
      omega

theorem toDays_ofDays (days : Int) : (ofDays days).toDays = days := (ofDays_exists days).1

theorem isValid_ofDays {days : Int}
    (h : firstYear ≤ (ofDays days).year ∧ (ofDays days).year ≤ lastYear) :
    (ofDays days).isValid = true :=
  isValid_iff.mpr ⟨h, (ofDays_exists days).2⟩

end WebService.Calendar.Date
