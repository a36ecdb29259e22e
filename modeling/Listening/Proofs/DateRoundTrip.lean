import Listening.Instant.Calendar
import Mathlib.Tactic.SplitIfs

/-!
# Dates there and back

A count of days is turned into a date and the date back into a count. Both
ways go by years that begin in March, in eras of 400 of them, and the way to
the date finds the year of an era by one division, after taking off the leap
days that have been by then. `Parts` is how many centuries, cycles and years
there are in a count of days of an era, and `Parts.yearOfEra_eq` that the
division finds them. From there on a date is what a year and a day in it make,
`Date.fromMarch`: it is as many days away as it was made from
(`Date.toDays_ofDays`), it is one of the calendar (`Date.isValid_ofDays`), and
for the days of the years 1 to 9999 its year is one of them
(`Date.year_ofDays`).
-/

namespace Listening.Calendar

/-! ## The parts of an era -/

/-- **The parts of a count of days** from March of the first year of an era:
centuries, cycles of four years, years, and days. -/
structure Parts (days c m r x : Int) : Prop where
  /-- There are four centuries. -/
  century : 0 ≤ c ∧ c ≤ 3
  /-- In each of them are twenty-five cycles. -/
  cycle : 0 ≤ m ∧ m ≤ 24
  /-- Each has four years. -/
  year : 0 ≤ r ∧ r ≤ 3
  /-- The last year of a cycle has one day more, but not the last one of a
  century, unless it is that of the era. -/
  day : 0 ≤ x ∧ (x ≤ 364 ∨ x = 365 ∧ r = 3 ∧ (m < 24 ∨ c = 3))
  /-- This is how many days it makes. -/
  sum : days = 36524 * c + 1461 * m + 365 * r + x

/-- Every count of days of an era has such parts. -/
theorem exists_parts {d : Int} (h0 : 0 ≤ d) (h1 : d < 146097) :
    ∃ c m r x, Parts d c m r x := by
  obtain ⟨c, t, hc, ht, hlast, hd⟩ : ∃ c t : Int, (0 ≤ c ∧ c ≤ 3) ∧ (0 ≤ t ∧ t ≤ 36524)
      ∧ (t = 36524 → c = 3) ∧ d = 36524 * c + t := by
    by_cases h : d = 146096
    · exact ⟨3, 36524, by omega, by omega, by omega, by omega⟩
    · exact ⟨d / 36524, d % 36524, by omega, by omega, by omega, by omega⟩
  obtain ⟨m, u, hm, hu, hm', hd'⟩ : ∃ m u : Int, (0 ≤ m ∧ m ≤ 24) ∧ (0 ≤ u ∧ u ≤ 1460)
      ∧ (u = 1460 → m = 24 → t = 36524) ∧ t = 1461 * m + u :=
    ⟨t / 1461, t % 1461, by omega, by omega, by omega, by omega⟩
  by_cases hlong : u = 1460
  · refine ⟨c, m, 3, 365, hc, hm, by omega, ⟨by omega, Or.inr ⟨rfl, rfl, ?_⟩⟩, by omega⟩
    by_cases h24 : m = 24
    · exact Or.inr (hlast (hm' hlong h24))
    · exact Or.inl (by omega)
  · exact ⟨c, m, u / 365, u % 365, hc, hm, by omega, by omega, by omega⟩

/-- **The division finds the year.** -/
theorem Parts.yearOfEra_eq {d c m r x : Int} (h : Parts d c m r x) :
    (d - d / 1460 + d / 36524 - d / 146096) / 365 = 100 * c + 4 * m + r := by
  obtain ⟨hc, hm, hr, hx, hd⟩ := h
  have hcentury : d = 146096 ∧ c = 3 ∨ 36524 * c ≤ d ∧ d < 36524 * (c + 1) ∧ d < 146096 := by
    omega
  have hcenturies : d / 36524 - d / 146096 = c := by
    rcases hcentury with ⟨rfl, rfl⟩ | ⟨hle, hlt, hall⟩
    · decide
    · have hfirst : d / 36524 = c := by omega
      have hnone : d / 146096 = 0 := by omega
      omega
  -- the leap days that the division by 1460 takes off too early do not add up to a year
  obtain ⟨extra, hextra, hcycles⟩ : ∃ extra : Int,
      (extra = 0 ∧ 365 * r + x < 1460 ∨ extra = 1 ∧ 1364 ≤ 365 * r + x)
      ∧ d / 1460 = 25 * c + m + extra :=
    ⟨(24 * c + m + 365 * r + x) / 1460, by omega, by omega⟩
  have hyears : 365 * (100 * c + 4 * m + r) ≤ d - d / 1460 + (d / 36524 - d / 146096)
      ∧ d - d / 1460 + (d / 36524 - d / 146096) < 365 * (100 * c + 4 * m + r) + 365 := by
    rw [hcenturies, hcycles]
    omega
  omega

/-- The day of the year, counted from March. -/
theorem Parts.dayOfYear_eq {d c m r x : Int} (h : Parts d c m r x) :
    d - (365 * (100 * c + 4 * m + r) + (100 * c + 4 * m + r) / 4 - (100 * c + 4 * m + r) / 100)
      = x := by
  obtain ⟨hc, hm, hr, hx, hd⟩ := h
  have hcycles : (100 * c + 4 * m + r) / 4 = 25 * c + m := by omega
  have hcenturies : (100 * c + 4 * m + r) / 100 = c := by omega
  omega

namespace Date

/-! ## Years from March on -/

/-- The date of a day of a year counted from March. -/
def fromMarch (year x : Int) : Date :=
  let month := (5 * x + 2) / 153
  let day := x - (153 * month + 2) / 5 + 1
  let month := if month < 10 then month + 3 else month - 9
  ⟨if month ≤ 2 then year + 1 else year, month.toNat, day.toNat⟩

/-- **What the date of a count of days is.** -/
theorem exists_ofDays (days : Int) : ∃ c m r x,
    Parts ((days + 719468) % 146097) c m r x
      ∧ ofDays days = fromMarch (100 * c + 4 * m + r + (days + 719468) / 146097 * 400) x := by
  obtain ⟨c, m, r, x, h⟩ := exists_parts (Int.emod_nonneg (days + 719468) (by decide))
    (Int.emod_lt_of_pos (days + 719468) (by decide : (0 : Int) < 146097))
  refine ⟨c, m, r, x, h, ?_⟩
  unfold ofDays fromMarch
  dsimp only
  rw [h.yearOfEra_eq, h.dayOfYear_eq]

/-- The first ten months from March on are of the year itself. -/
theorem fromMarch_of_lt {year x : Int} (h0 : 0 ≤ x) (h1 : x < 306) :
    fromMarch year x = ⟨year, ((5 * x + 2) / 153 + 3).toNat,
      (x - (153 * ((5 * x + 2) / 153) + 2) / 5 + 1).toNat⟩ := by
  have hmonth : (5 * x + 2) / 153 < 10 := by omega
  have hlate : ¬ (5 * x + 2) / 153 + 3 ≤ 2 := by omega
  simp only [fromMarch, if_pos hmonth, if_neg hlate]

/-- The last two are of the next year. -/
theorem fromMarch_of_le {year x : Int} (h0 : 306 ≤ x) (h1 : x ≤ 365) :
    fromMarch year x = ⟨year + 1, ((5 * x + 2) / 153 - 9).toNat,
      (x - (153 * ((5 * x + 2) / 153) + 2) / 5 + 1).toNat⟩ := by
  have hmonth : ¬ (5 * x + 2) / 153 < 10 := by omega
  have hearly : (5 * x + 2) / 153 - 9 ≤ 2 := by omega
  simp only [fromMarch, if_neg hmonth, if_pos hearly]

/-- The days to a date, from its year and the day in it counted from March. -/
theorem toDays_fromMarch {year x : Int} (h0 : 0 ≤ x) (h1 : x ≤ 365) :
    (fromMarch year x).toDays
      = year / 400 * 146097 + (year % 400 * 365 + year % 400 / 4 - year % 400 / 100 + x)
        - 719468 := by
  obtain ⟨month, hmonth⟩ : ∃ month, month = (5 * x + 2) / 153 := ⟨_, rfl⟩
  have hday : 0 ≤ x - (153 * month + 2) / 5 := by omega
  by_cases hx : x < 306
  · have hlate : ¬ (month + 3).toNat ≤ 2 := by omega
    have hback : (((month + 3).toNat + 9) % 12 : Nat) = month := by omega
    rw [fromMarch_of_lt h0 hx, ← hmonth]
    simp only [toDays, if_neg hlate, hback]
    omega
  · have hearly : (month - 9).toNat ≤ 2 := by omega
    have hback : (((month - 9).toNat + 9) % 12 : Nat) = month := by omega
    rw [fromMarch_of_le (by omega) h1, ← hmonth]
    simp only [toDays, if_pos hearly, hback, Int.add_sub_cancel]
    omega

/-! ## Dates of counts of days -/

/-- **The date of a count of days is that many days away.** -/
theorem toDays_ofDays (days : Int) : (ofDays days).toDays = days := by
  obtain ⟨c, m, r, x, h, hdate⟩ := exists_ofDays days
  obtain ⟨hc, hm, hr, hx, hd⟩ := h
  rw [hdate, toDays_fromMarch hx.1 (by omega)]
  have hera : (100 * c + 4 * m + r + (days + 719468) / 146097 * 400) / 400
      = (days + 719468) / 146097 := by omega
  have hyear : (100 * c + 4 * m + r + (days + 719468) / 146097 * 400) % 400
      = 100 * c + 4 * m + r := by omega
  rw [hera, hyear]
  have hcycles : (100 * c + 4 * m + r) / 4 = 25 * c + m := by omega
  have hcenturies : (100 * c + 4 * m + r) / 100 = c := by omega
  omega

/-- **A count of days has a date of the calendar.** -/
theorem isValid_ofDays (days : Int) : (ofDays days).isValid = true := by
  obtain ⟨c, m, r, x, h, hdate⟩ := exists_ofDays days
  obtain ⟨hc, hm, hr, hx, hd⟩ := h
  obtain ⟨era, hera⟩ : ∃ era, era = (days + 719468) / 146097 := ⟨_, rfl⟩
  rw [hdate, ← hera]
  obtain ⟨year, hyear⟩ : ∃ year, year = 100 * c + 4 * m + r + era * 400 := ⟨_, rfl⟩
  obtain ⟨month, hmonth⟩ : ∃ month, month = (5 * x + 2) / 153 := ⟨_, rfl⟩
  rw [← hyear]
  by_cases hlt : x < 306
  · rw [fromMarch_of_lt hx.1 hlt, ← hmonth]
    simp only [isValid, monthLength, Bool.and_eq_true, decide_eq_true_eq]
    refine ⟨⟨⟨by omega, by omega⟩, by omega⟩, ?_⟩
    rw [if_neg (by omega)]
    split_ifs <;> omega
  · -- a year from March on has a day 365 only if its last day is a leap day
    have hleap : x = 365 → isLeap (year + 1) = true := by
      intro h365
      simp only [isLeap, Bool.decide_and, Bool.decide_or, Bool.and_eq_true,
        Bool.or_eq_true, decide_eq_true_eq]
      omega
    rw [fromMarch_of_le (by omega) (by omega), ← hmonth]
    simp only [isValid, monthLength, Bool.and_eq_true, decide_eq_true_eq]
    refine ⟨⟨⟨by omega, by omega⟩, by omega⟩, ?_⟩
    by_cases h365 : x = 365
    · rw [if_pos (by omega), if_pos (hleap h365)]
      omega
    · split_ifs <;> omega

/-- A date of the calendar has a month of the year and a day of a month. -/
theorem le_of_isValid {d : Calendar.Date} (h : d.isValid = true) :
    d.month ≤ 12 ∧ d.day ≤ 31 := by
  have hlength : monthLength d.year d.month ≤ 31 := by
    unfold monthLength
    split_ifs <;> omega
  simp only [isValid, Bool.and_eq_true, decide_eq_true_eq] at h
  omega

/-- **The days of the years 1 to 9999** have dates of these years. -/
theorem year_ofDays {days : Int} (hfirst : toDays ⟨1, 1, 1⟩ ≤ days)
    (hlast : days < toDays ⟨10000, 1, 1⟩) :
    1 ≤ (ofDays days).year ∧ (ofDays days).year ≤ 9999 := by
  have hearliest : toDays ⟨1, 1, 1⟩ = -719162 := by decide
  have hlatest : toDays ⟨10000, 1, 1⟩ = 2932897 := by decide
  obtain ⟨c, m, r, x, h, hdate⟩ := exists_ofDays days
  obtain ⟨hc, hm, hr, hx, hd⟩ := h
  rw [hdate]
  -- year 1 begins with the last two months of a year counted from March, and year 9999 ends
  -- with the first ten of one
  by_cases hlt : x < 306
  · rw [fromMarch_of_lt hx.1 hlt]
    dsimp only
    omega
  · rw [fromMarch_of_le (by omega) (by omega)]
    dsimp only
    omega

end Date

end Listening.Calendar
