import AssessmentChat.Timestamp

namespace AssessmentChat.Timestamp

/-!
# Days and dates

A day is counted within its era, four centuries of 146097 days that begin with the
first of March.  An era is cut into centuries, these into cycles of four years and
these into years; only the last part of each may be a day longer than the others.
From these parts both directions of the conversion are read off.
-/

/-- Where a day lies in its era. -/
structure EraDay where
  century : Nat
  cycle : Nat
  year : Nat
  day : Nat
  century_le : century ≤ 3
  cycle_le : cycle ≤ 24
  year_le : year ≤ 3
  day_le : day ≤ 365
  /-- The last year of a cycle has a leap day, but for the last cycle of most centuries. -/
  leapDay : day = 365 → year = 3 ∧ (cycle = 24 → century = 3)

namespace EraDay

/-- The number of days before a day of an era. -/
def toNat (position : EraDay) : Nat :=
  36524 * position.century + 1461 * position.cycle + 365 * position.year +
    position.day

/-- The number of years before the year of a day. -/
def yearOfEra (position : EraDay) : Nat :=
  100 * position.century + 4 * position.cycle + position.year

theorem yearOfEra_lt
    (position : EraDay) :
    position.yearOfEra < 400 := by
  have century := position.century_le
  have cycle := position.cycle_le
  have year := position.year_le
  rw [yearOfEra]
  omega

theorem yearOfEra_div_four
    (position : EraDay) :
    position.yearOfEra / 4 = 25 * position.century + position.cycle := by
  have year := position.year_le
  rw [yearOfEra]
  omega

theorem yearOfEra_div_hundred
    (position : EraDay) :
    position.yearOfEra / 100 = position.century := by
  have cycle := position.cycle_le
  have year := position.year_le
  rw [yearOfEra]
  omega

/-- The days before are those of the years before, with their leap days, and of the year. -/
theorem toNat_eq
    (position : EraDay) :
    365 * position.yearOfEra + position.yearOfEra / 4 -
        position.yearOfEra / 100 + position.day =
      position.toNat := by
  rw [yearOfEra_div_four, yearOfEra_div_hundred, yearOfEra, toNat]
  omega

/-- A day is within its era. -/
theorem toNat_lt
    (position : EraDay) :
    position.toNat < 146097 := by
  obtain ⟨century, cycle, year, day, _, _, _, _, leapDay⟩ := position
  simp only [toNat]
  by_cases last : day = 365
  · obtain ⟨rfl, lastCycle⟩ := leapDay last
    omega
  · omega

/-- The centuries before a day, of which the last one is a day longer. -/
theorem toNat_div_century
    (position : EraDay) :
    position.toNat / 36524 - position.toNat / 146096 = position.century := by
  obtain ⟨century, cycle, year, day, _, _, _, _, leapDay⟩ := position
  simp only [toNat]
  by_cases last : day = 365
  · subst last
    obtain ⟨rfl, lastCycle⟩ := leapDay rfl
    by_cases isLast : cycle = 24
    · subst isLast
      rw [lastCycle rfl]
    · have inCentury :
          (36524 * century + 1461 * cycle + 365 * 3 + 365) / 36524 =
            century := by
        omega
      have inEra :
          (36524 * century + 1461 * cycle + 365 * 3 + 365) / 146096 = 0 := by
        omega
      rw [inCentury, inEra, Nat.sub_zero]
  · omega

/-- A cycle has 1460 days and one more, so these are what is left out at its end. -/
theorem toNat_div_cycle
    (position : EraDay) :
    position.toNat / 1460 =
      25 * position.century + position.cycle +
        (24 * position.century + position.cycle + 365 * position.year +
            position.day) /
          1460 := by
  rw [toNat]
  omega

/-- Without leap days, years are of equal length. -/
theorem yearOfEra_eq
    (position : EraDay) :
    (position.toNat - position.toNat / 1460 + position.toNat / 36524 -
        position.toNat / 146096) /
      365 =
        position.yearOfEra := by
  have centuries := position.toNat_div_century
  have ordered : position.toNat / 146096 ≤ position.toNat / 36524 := by
    omega
  have withoutLeapDays :
      position.toNat - position.toNat / 1460 + position.toNat / 36524 -
          position.toNat / 146096 =
        position.toNat - position.toNat / 1460 + position.century := by
    omega
  rw [withoutLeapDays, toNat_div_cycle]
  clear centuries ordered withoutLeapDays
  obtain ⟨century, cycle, year, day, _, _, _, _, leapDay⟩ := position
  simp only [toNat, yearOfEra]
  by_cases last : day = 365
  · obtain ⟨rfl, -⟩ := leapDay last
    clear leapDay
    omega
  · clear leapDay
    omega

/-- Every day of an era lies in one of its years. -/
theorem exists_toNat_eq
    {dayOfEra : Nat}
    (within : dayOfEra < 146097) :
    ∃ position : EraDay, position.toNat = dayOfEra := by
  obtain ⟨century, dayOfCentury, centuryLe, dayLe, isLast, rfl⟩ :
      ∃ century dayOfCentury,
        century ≤ 3 ∧ dayOfCentury ≤ 36524 ∧
          (dayOfCentury = 36524 → century = 3) ∧
            dayOfEra = 36524 * century + dayOfCentury := by
    by_cases early : dayOfEra < 109572
    · exact ⟨dayOfEra / 36524, dayOfEra % 36524, by omega, by omega,
        by omega, by omega⟩
    · exact ⟨3, dayOfEra - 109572, by omega, by omega, by omega, by omega⟩
  obtain ⟨cycle, dayOfCycle, cycleLe, dayLe', isLast', rfl⟩ :
      ∃ cycle dayOfCycle,
        cycle ≤ 24 ∧ dayOfCycle ≤ 1460 ∧
          (cycle = 24 → dayOfCycle = 1460 → dayOfCentury = 36524) ∧
            dayOfCentury = 1461 * cycle + dayOfCycle :=
    ⟨dayOfCentury / 1461, dayOfCentury % 1461, by omega, by omega,
      by omega, by omega⟩
  obtain ⟨year, day, yearLe, dayLe'', isLast'', rfl⟩ :
      ∃ year day,
        year ≤ 3 ∧ day ≤ 365 ∧ (day = 365 → year = 3) ∧
          dayOfCycle = 365 * year + day := by
    by_cases early : dayOfCycle < 1095
    · exact ⟨dayOfCycle / 365, dayOfCycle % 365, by omega, by omega,
        by omega, by omega⟩
    · exact ⟨3, dayOfCycle - 1095, by omega, by omega, by omega, by omega⟩
  refine
    ⟨⟨century, cycle, year, day, centuryLe, cycleLe, yearLe, dayLe'',
      fun last => ⟨isLast'' last, by omega⟩⟩, ?_⟩
  simp only [toNat]
  omega

end EraDay

/-! ## Months -/

/-- The month, counted from March, of a day of a year that begins with March. -/
def monthFromMarch (dayOfYear : Nat) : Nat :=
  (5 * dayOfYear + 2) / 153

/-- The month of a day of a year that begins with March. -/
def monthOf (dayOfYear : Nat) : Nat :=
  if monthFromMarch dayOfYear < 10 then monthFromMarch dayOfYear + 3
  else monthFromMarch dayOfYear - 9

/-- The day of the month of a day of a year that begins with March. -/
def dayOf (dayOfYear : Nat) : Nat :=
  dayOfYear - (153 * monthFromMarch dayOfYear + 2) / 5 + 1

/-- Every day of a year is in one of its twelve months. -/
theorem monthOf_bounds :
    ∀ dayOfYear < 366,
      1 ≤ monthOf dayOfYear ∧ monthOf dayOfYear ≤ 12 := by
  decide +kernel

/-- A month and its day say which day of the year it is. -/
theorem dayOfYear_eq :
    ∀ dayOfYear < 366,
      (153 * ((monthOf dayOfYear + 9) % 12) + 2) / 5 + dayOf dayOfYear - 1 =
        dayOfYear := by
  decide +kernel

/-- The day of a month is one that the month has; in February, if it has a leap day. -/
theorem dayOf_bounds :
    ∀ dayOfYear < 366,
      1 ≤ dayOf dayOfYear ∧
        (monthOf dayOfYear ≠ 2 →
          dayOf dayOfYear ≤ daysInMonth 0 (monthOf dayOfYear)) ∧
        (monthOf dayOfYear = 2 →
          dayOf dayOfYear ≤ if dayOfYear = 365 then 29 else 28) := by
  decide +kernel

/-! ## Dates -/

/-- The year in which a day of an era lies, counted from January. -/
def calendarYear (era : Int) (position : EraDay) : Int :=
  if monthOf position.day ≤ 2 then position.yearOfEra + era * 400 + 1
  else position.yearOfEra + era * 400

/-- The number of days from 1970 to a day of an era. -/
def daysOfEraDay (era : Int) (position : EraDay) : Int :=
  era * 146097 + position.toNat - 719468

/-- Every day is one of an era. -/
theorem exists_daysOfEraDay
    (days : Int) :
    ∃ era position, days = daysOfEraDay era position := by
  obtain ⟨position, same⟩ :=
    @EraDay.exists_toNat_eq ((days + 719468) % 146097).toNat (by omega)
  refine ⟨(days + 719468) / 146097, position, ?_⟩
  rw [daysOfEraDay, same]
  omega

/-- The date of a day of an era. -/
theorem dateOfDays_daysOfEraDay
    (era : Int)
    (position : EraDay) :
    dateOfDays (daysOfEraDay era position) =
      (calendarYear era position, monthOf position.day,
        dayOf position.day) := by
  have within := position.toNat_lt
  have shifted :
      daysOfEraDay era position + 719468 =
        era * 146097 + position.toNat := by
    rw [daysOfEraDay]
    omega
  have sameEra :
      (era * 146097 + (position.toNat : Int)).fdiv 146097 = era := by
    rw [Int.fdiv_eq_ediv_of_nonneg _ (by decide)]
    omega
  have sameDay :
      (era * 146097 + (position.toNat : Int) - era * 146097).toNat =
        position.toNat := by
    omega
  have sameDayOfYear :
      position.toNat -
          (365 * position.yearOfEra + position.yearOfEra / 4 -
            position.yearOfEra / 100) =
        position.day := by
    have whole := position.toNat_eq
    omega
  simp only [dateOfDays, shifted, sameEra, sameDay, position.yearOfEra_eq,
    sameDayOfYear]
  rfl

/-- The day of the date of a day of an era. -/
theorem daysOfDate_eraDay
    (era : Int)
    (position : EraDay) :
    daysOfDate (calendarYear era position) (monthOf position.day)
        (dayOf position.day) =
      daysOfEraDay era position := by
  have within := position.yearOfEra_lt
  have sameDay := dayOfYear_eq position.day (Nat.lt_succ_of_le position.day_le)
  have whole := position.toNat_eq
  have sameYear :
      (if monthOf position.day ≤ 2 then calendarYear era position - 1
        else calendarYear era position) =
        position.yearOfEra + era * 400 := by
    unfold calendarYear
    split <;> omega
  have sameEra :
      ((position.yearOfEra : Int) + era * 400).fdiv 400 = era := by
    rw [Int.fdiv_eq_ediv_of_nonneg _ (by decide)]
    omega
  have sameYearOfEra :
      (position.yearOfEra : Int) + era * 400 - era * 400 =
        position.yearOfEra := by
    omega
  simp only [daysOfDate, sameYear, sameEra, sameYearOfEra, sameDay]
  rw [Int.fdiv_eq_ediv_of_nonneg _ (by decide),
    Int.fdiv_eq_ediv_of_nonneg _ (by decide), daysOfEraDay]
  omega

/-- A year with one day more is a leap year. -/
theorem isLeapYear_calendarYear
    (era : Int)
    {position : EraDay}
    (leapDay : position.day = 365) :
    isLeapYear (calendarYear era position) = true := by
  have isFebruary : monthOf position.day ≤ 2 := by
    rw [leapDay]
    decide
  obtain ⟨lastYear, lastCycle⟩ := position.leapDay leapDay
  have cycle := position.cycle_le
  have century := position.century_le
  simp only [isLeapYear, calendarYear, isFebruary, if_true,
    EraDay.yearOfEra, lastYear]
  by_cases isLast : position.cycle = 24
  · rw [isLast, lastCycle isLast]
    simp
    omega
  · simp
    omega

/-- A date and its day: the calendar has it, and it is counted back to that day. -/
theorem dateOfDays_spec
    (days : Int) :
    ∃ year month day,
      dateOfDays days = (year, month, day) ∧
        (1 ≤ month ∧ month ≤ 12) ∧
        (1 ≤ day ∧ day ≤ daysInMonth year month) ∧
        daysOfDate year month day = days := by
  obtain ⟨era, position, rfl⟩ := exists_daysOfEraDay days
  have within : position.day < 366 := Nat.lt_succ_of_le position.day_le
  obtain ⟨positive, otherMonths, february⟩ := dayOf_bounds position.day within
  refine
    ⟨_, _, _, dateOfDays_daysOfEraDay era position,
      monthOf_bounds position.day within, ⟨positive, ?_⟩,
      daysOfDate_eraDay era position⟩
  by_cases isFebruary : monthOf position.day = 2
  · have atMost := february isFebruary
    rw [isFebruary]
    by_cases leapDay : position.day = 365
    · simpa [daysInMonth, isLeapYear_calendarYear era leapDay, leapDay]
        using atMost
    · simp only [leapDay, if_false] at atMost
      simp only [daysInMonth, if_true]
      split <;> omega
  · have atMost := otherMonths isFebruary
    simpa [daysInMonth, isFebruary] using atMost

theorem daysInMonth_le
    (year : Int)
    (month : Nat) :
    daysInMonth year month ≤ 31 := by
  unfold daysInMonth
  split
  · split <;> omega
  · split <;> omega

end AssessmentChat.Timestamp
