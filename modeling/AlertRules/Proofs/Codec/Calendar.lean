import AlertRules.Timestamp

/-!
# Dates and days

`Calendar.dateOfDays` finds the date of a day and `Calendar.daysOfDate` the day of a date. Both
count in eras of 400 years that begin on 1 March, so that a leap day is the last of its year.

Within an era the year of a day is found by division: `evenDays` takes out the leap days that lie
before the day, after which every year has 365. That this is right at both ends of every year is
checked year by year (`evenDays_ends`), and carried to the days in between by `evenDays_mono`
(`year_of_evenDays`).

> `daysOfDate_dateOfDays`: the date of a day is a date of the calendar, and is that day.
-/

namespace AlertRules.Calendar

/-! ## Years of an era -/

/-- The days of an era before a year of it. -/
def daysBeforeYear (y : Int) : Int := 365 * y + y / 4 - y / 100

/-- The number of a day in an era without the leap days before it. -/
def evenDays (d : Int) : Int := d - d / 1460 + d / 36524 - d / 146096

theorem evenDays_step {d : Int} (h0 : 0 ≤ d) (h : d < 146096) : evenDays d ≤ evenDays (d + 1) := by
  unfold evenDays
  omega

theorem evenDays_mono {d e : Int} (h0 : 0 ≤ d) (hde : d ≤ e) (he : e < 146097) :
    evenDays d ≤ evenDays e := by
  obtain ⟨k, rfl⟩ := Int.le.dest hde
  -- The induction is on the distance, so the order of the two is not needed any more.
  clear hde
  induction k with
  | zero => simp
  | succ k ih =>
    have hstep := evenDays_step (d := d + k) (by omega) (by omega)
    have heq : d + ((k + 1 : Nat) : Int) = d + k + 1 := by omega
    rw [heq]
    exact Int.le_trans (ih (by omega)) hstep

/-- The first day of every year of an era falls into it, and the last one too. -/
theorem evenDays_ends : ∀ y : Nat, y < 400 →
    365 * (y : Int) ≤ evenDays (daysBeforeYear y) ∧
      (y < 399 → evenDays (daysBeforeYear (y + 1) - 1) < 365 * (y + 1)) := by
  decide +kernel

/-- A day of an era lies in the year found by division. -/
theorem year_of_evenDays {d : Int} (h0 : 0 ≤ d) (h : d < 146097) :
    0 ≤ evenDays d / 365 ∧ evenDays d / 365 < 400 ∧ daysBeforeYear (evenDays d / 365) ≤ d ∧
      (evenDays d / 365 < 399 → d < daysBeforeYear (evenDays d / 365 + 1)) := by
  have hrange : 0 ≤ evenDays d / 365 ∧ evenDays d / 365 < 400 := by
    unfold evenDays
    omega
  obtain ⟨y, hy⟩ := Int.eq_ofNat_of_zero_le hrange.1
  rw [hy] at hrange ⊢
  refine ⟨hrange.1, hrange.2, ?_, ?_⟩
  · apply Int.not_lt.mp
    intro hlt
    -- Otherwise the day would be no later than the last one of the year before.
    cases y with
    | zero => exact absurd hlt (by simp [daysBeforeYear]; omega)
    | succ y =>
      have hend := (evenDays_ends y (by omega)).2 (by omega)
      have hmono := evenDays_mono h0 (e := daysBeforeYear (y + 1) - 1)
        (by rw [show ((y + 1 : Nat) : Int) = y + 1 from rfl] at hlt; omega)
        (by unfold daysBeforeYear; omega)
      omega
  · intro hlast
    -- Otherwise it would be no earlier than the first one of the year after.
    apply Int.not_le.mp
    intro hle
    have hstart := (evenDays_ends (y + 1) (by omega)).1
    have hmono :=
      evenDays_mono (d := daysBeforeYear (y + 1)) (by unfold daysBeforeYear; omega) hle h
    rw [show ((y + 1 : Nat) : Int) = y + 1 from rfl] at hstart
    omega

/-- Only a year that ends on a leap day has more than 365 days. -/
theorem leap_of_daysBeforeYear {y : Int}
    (h : daysBeforeYear y + 365 < daysBeforeYear (y + 1)) :
    (y + 1) % 4 = 0 ∧ (y + 1) % 100 ≠ 0 := by
  unfold daysBeforeYear at h
  constructor
  · apply Classical.byContradiction
    intro hmod
    have hquarter : (y + 1) / 4 = y / 4 := by omega
    have hcentury : y / 100 ≤ (y + 1) / 100 := by omega
    omega
  · intro hmod
    have hcentury : (y + 1) / 100 = y / 100 + 1 := by omega
    have hquarter : (y + 1) / 4 ≤ y / 4 + 1 := by omega
    omega

theorem daysBeforeYear_succ_le (y : Int) : daysBeforeYear (y + 1) ≤ daysBeforeYear y + 366 := by
  unfold daysBeforeYear
  omega

/-! ## Months of a year -/

/-- The month of a day of a year that begins in March, counted from March. -/
def monthOfDay (dayOfYear : Int) : Int := (5 * dayOfYear + 2) / 153

/-- The days of a year that begins in March before a month of it. -/
def daysBeforeMonth (shifted : Int) : Int := (153 * shifted + 2) / 5

/-- A day lies in its month, and in no longer one than the calendar has. -/
theorem month_of_day : ∀ d : Nat, d < 366 →
    0 ≤ monthOfDay d ∧ monthOfDay d < 12 ∧ daysBeforeMonth (monthOfDay d) ≤ d ∧
      d < daysBeforeMonth (monthOfDay d) + 31 ∧
      ((monthOfDay d = 1 ∨ monthOfDay d = 3 ∨ monthOfDay d = 6 ∨ monthOfDay d = 8) →
        d < daysBeforeMonth (monthOfDay d) + 30) := by
  decide +kernel

/-! ## Whole dates -/

/-- What makes a date one of the calendar. -/
def IsDate (year : Int) (month day : Nat) : Prop :=
  1 ≤ month ∧ month ≤ 12 ∧ 1 ≤ day ∧ day ≤ daysInMonth year month

theorem day_le_daysInMonth {year : Int} {month day : Nat} (h31 : day ≤ 31)
    (h30 : month = 4 ∨ month = 6 ∨ month = 9 ∨ month = 11 → day ≤ 30)
    (h28 : month = 2 → day ≤ 28 ∨ (day = 29 ∧ isLeapYear year)) :
    day ≤ daysInMonth year month := by
  unfold daysInMonth
  split
  next h2 =>
    rcases h28 h2 with h | ⟨rfl, hleap⟩
    · split <;> omega
    · exact Nat.le_of_eq (if_pos hleap).symm
  next =>
    split
    next h => exact h30 h
    next => exact h31

/-- A month counted from January, if it is given as counted from March. -/
def fromMarch (shifted : Int) : Int := if shifted < 10 then shifted + 3 else shifted - 9

/-- The month of a day, in both ways of counting. -/
theorem month_fromMarch {month : Nat} {shifted : Int} (h0 : 0 ≤ shifted) (h12 : shifted < 12)
    (h : (month : Int) = fromMarch shifted) :
    1 ≤ month ∧ month ≤ 12 ∧ ((month : Int) + 9) % 12 = shifted ∧ (month ≤ 2 ↔ 10 ≤ shifted) := by
  unfold fromMarch at h
  split at h <;> omega

/-- A day of an era and the day of its year: there are 365, or 366 if the year ends on a leap
day. -/
theorem exists_dayOfYear {d : Int} (h0 : 0 ≤ d) (h : d < 146097) :
    ∃ dayOfYear : Nat, (dayOfYear : Int) = d - daysBeforeYear (evenDays d / 365) ∧
      dayOfYear < 366 ∧ (dayOfYear = 365 → (evenDays d / 365 + 1) % 4 = 0 ∧
        ((evenDays d / 365 + 1) % 100 ≠ 0 ∨ evenDays d / 365 + 1 = 400)) := by
  obtain ⟨hy0, hy1, hfirst, hlast⟩ := year_of_evenDays h0 h
  generalize evenDays d / 365 = y at hy0 hy1 hfirst hlast ⊢
  refine ⟨(d - daysBeforeYear y).toNat, by omega, ?_⟩
  by_cases hy399 : y = 399
  · -- The last year of an era always ends on a leap day.
    subst hy399
    have hbefore : daysBeforeYear 399 = 145731 := rfl
    omega
  · have hnext := hlast (by omega)
    have hsucc := daysBeforeYear_succ_le y
    refine ⟨by omega, fun h365 => ?_⟩
    have hleap := leap_of_daysBeforeYear (y := y) (by omega)
    exact ⟨hleap.1, .inl hleap.2⟩

section

variable {era y shifted : Int} {dayOfYear month day : Nat}
  (hshifted : shifted = monthOfDay dayOfYear) (hmonth : (month : Int) = fromMarch shifted)
  (hday : (day : Int) = dayOfYear - daysBeforeMonth shifted + 1) (h366 : dayOfYear < 366)

include hshifted hmonth hday h366

/-- What is found for a day of a year is a date of the calendar. -/
theorem isDate_fromMarch (hleap : dayOfYear = 365 →
      (y + 1) % 4 = 0 ∧ ((y + 1) % 100 ≠ 0 ∨ y + 1 = 400)) :
    IsDate (y + era * 400 + (if (month : Int) ≤ 2 then 1 else 0)) month day := by
  obtain ⟨hm0, hm1, hmfirst, hmlast, hmshort⟩ := month_of_day dayOfYear h366
  rw [← hshifted] at hm0 hm1 hmfirst hmlast hmshort
  obtain ⟨h1, h12, hback, hnew⟩ := month_fromMarch hm0 hm1 hmonth
  refine ⟨h1, h12, by omega, ?_⟩
  apply day_le_daysInMonth
  · omega
  · intro hshort
    have hthirty := hmshort (by omega)
    omega
  · -- February is the last month: it has a 29th day if the year has a 366th.
    intro hfeb
    have hm11 : shifted = 11 := by omega
    have hbefore : daysBeforeMonth shifted = 337 := by rw [hm11]; rfl
    by_cases h365 : dayOfYear = 365
    · refine .inr ⟨by omega, ?_⟩
      obtain ⟨hquarter, hcentury⟩ := hleap h365
      rw [if_pos (by omega)]
      simp only [isLeapYear, decide_eq_true_eq]
      constructor
      · omega
      · rcases hcentury with h | h
        · left
          omega
        · right
          omega
    · left
      omega

/-- And it is that day. -/
theorem daysOfDate_fromMarch (hy0 : 0 ≤ y) (hy1 : y < 400) :
    daysOfDate (y + era * 400 + (if (month : Int) ≤ 2 then 1 else 0)) month day =
      era * 146097 + (daysBeforeYear y + dayOfYear) - 719468 := by
  obtain ⟨hm0, hm1, -, -, -⟩ := month_of_day dayOfYear h366
  rw [← hshifted] at hm0 hm1
  obtain ⟨-, -, hback, -⟩ := month_fromMarch hm0 hm1 hmonth
  have hyear : (if month ≤ 2 then y + era * 400 + (if (month : Int) ≤ 2 then 1 else 0) - 1
      else y + era * 400 + (if (month : Int) ≤ 2 then 1 else 0)) = y + era * 400 := by
    split
    · rw [if_pos (by omega)]
      omega
    · rw [if_neg (by omega)]
      omega
  have hera : (y + era * 400) / 400 = era := by omega
  have hmod : (y + era * 400) % 400 = y := by omega
  unfold daysOfDate
  dsimp only
  rw [hyear, hback, hera, hmod]
  unfold daysBeforeMonth at hday
  unfold daysBeforeYear
  omega

end

/-- The date of a day is a date of the calendar, and is that day. -/
theorem daysOfDate_dateOfDays (days : Int) :
    IsDate (dateOfDays days).1 (dateOfDays days).2.1 (dateOfDays days).2.2 ∧
      daysOfDate (dateOfDays days).1 (dateOfDays days).2.1 (dateOfDays days).2.2 = days := by
  obtain ⟨era, hera⟩ : ∃ era, era = (days + 719468) / 146097 := ⟨_, rfl⟩
  obtain ⟨d, hd⟩ : ∃ d, d = (days + 719468) % 146097 := ⟨_, rfl⟩
  have hd0 : 0 ≤ d := by omega
  have hd1 : d < 146097 := by omega
  obtain ⟨hy0, hy1, -, -⟩ := year_of_evenDays hd0 hd1
  obtain ⟨dayOfYear, hdayOfYear, h366, hleap⟩ := exists_dayOfYear hd0 hd1
  obtain ⟨hm0, hm1, hmfirst, -, -⟩ := month_of_day dayOfYear h366
  obtain ⟨month, hmonth⟩ : ∃ k : Nat, (k : Int) = fromMarch (monthOfDay dayOfYear) :=
    ⟨(fromMarch (monthOfDay dayOfYear)).toNat, by unfold fromMarch; split <;> omega⟩
  obtain ⟨day, hday⟩ : ∃ k : Nat,
      (k : Int) = dayOfYear - daysBeforeMonth (monthOfDay dayOfYear) + 1 :=
    ⟨(dayOfYear - daysBeforeMonth (monthOfDay dayOfYear) + 1).toNat, by omega⟩
  have hdate : dateOfDays days =
      (evenDays d / 365 + era * 400 + (if (month : Int) ≤ 2 then 1 else 0), month, day) := by
    have hparts : dateOfDays days = (evenDays d / 365 + era * 400 +
        (if fromMarch (monthOfDay dayOfYear) ≤ 2 then 1 else 0),
        (fromMarch (monthOfDay dayOfYear)).toNat,
        (dayOfYear - daysBeforeMonth (monthOfDay dayOfYear) + 1).toNat) := by
      rw [hdayOfYear, hd, hera]
      rfl
    rw [hparts, ← hmonth, ← hday, Int.toNat_natCast, Int.toNat_natCast]
  rw [hdate]
  refine ⟨isDate_fromMarch rfl hmonth hday h366 hleap, ?_⟩
  rw [daysOfDate_fromMarch rfl hmonth hday h366 hy0 hy1]
  omega

end AlertRules.Calendar
