import PortableFilter.Calendar

/-! # Dates and the numbers of their days

Counting days up to a date and finding the date of a day are inverse to each other
(`Calendar.dayNumber_dateOfDay`, `Calendar.dateOfDay_dayNumber`). A day falls into exactly one year
(`Calendar.yearOfDay_eq`) and, within its year, into exactly one month. -/

namespace PortableFilter.Calendar

theorem isLeap_iff {year : Int} :
    isLeap year ↔ year % 4 = 0 ∧ (year % 100 ≠ 0 ∨ year % 400 = 0) := by
  simp [isLeap]

/-- The number of days of a year. -/
def yearLength (leap : Bool) : Nat := if leap then 366 else 365

/-! ## Years -/

theorem daysBeforeYear_eq (year : Int) :
    daysBeforeYear year =
      365 * (year - 1) + (year - 1) / 4 - (year - 1) / 100 + (year - 1) / 400 := rfl

/-- The next year starts after the days of this one. -/
theorem daysBeforeYear_succ (year : Int) :
    daysBeforeYear (year + 1) = daysBeforeYear year + yearLength (isLeap year) := by
  rw [daysBeforeYear_eq, daysBeforeYear_eq, yearLength]
  by_cases leap : isLeap year
  · rw [if_pos leap]
    rw [isLeap_iff] at leap
    omega
  · rw [if_neg leap]
    rw [isLeap_iff] at leap
    omega

/-- Later years start later. -/
theorem daysBeforeYear_le {year later : Int} (le : year ≤ later) :
    daysBeforeYear year ≤ daysBeforeYear later := by
  rw [daysBeforeYear_eq, daysBeforeYear_eq]
  omega

/-- A day belongs to a cycle of 400 years, a century of the cycle, a span of four years, and a year
of the span. Only the last year of a span can have 366 days, and that of the last span of a century
only if the century is the last of its cycle. -/
theorem exists_parts (day : Int) : ∃ (cycle : Int) (century span year inYear : Nat),
    yearOfDay day = (400 * cycle + (100 * century + 4 * span + year : Nat) + 1, inYear) ∧
      day = 146097 * cycle + (36524 * century + 1461 * span + 365 * year : Nat) + inYear ∧
      century ≤ 3 ∧ span ≤ 24 ∧ year ≤ 3 ∧ inYear ≤ 365 ∧
      (inYear = 365 → year = 3 ∧ (span = 24 → century = 3)) := by
  simp only [yearOfDay]
  generalize isInCycle : (day % 146097).toNat = inCycle
  generalize isCentury : min (inCycle / 36524) 3 = century
  generalize isInCentury : inCycle - 36524 * century = inCentury
  generalize isSpan : inCentury / 1461 = span
  generalize isInSpan : inCentury - 1461 * span = inSpan
  generalize isYear : min (inSpan / 365) 3 = year
  have ofDay : day = 146097 * (day / 146097) + inCycle ∧ inCycle < 146097 := by omega
  have ofCycle : inCycle = 36524 * century + inCentury ∧ century ≤ 3 ∧ inCentury ≤ 36524 ∧
      (inCentury = 36524 → century = 3) := by omega
  have ofCentury : inCentury = 1461 * span + inSpan ∧ span ≤ 24 ∧ inSpan ≤ 1460 := by omega
  have ofSpan : inSpan = 365 * year + (inSpan - 365 * year) ∧ year ≤ 3 ∧
      inSpan - 365 * year ≤ 365 ∧ (inSpan - 365 * year = 365 → year = 3) := by omega
  clear isYear isInSpan isSpan isInCentury isCentury isInCycle
  refine ⟨day / 146097, century, span, year, inSpan - 365 * year, rfl, ?_, ofCycle.2.1,
    ofCentury.2.1, ofSpan.2.1, ofSpan.2.2.1, ?_⟩
  · omega
  · omega

/-- A day falls into the year that is found for it. -/
theorem daysBeforeYear_yearOfDay (day : Int) :
    daysBeforeYear (yearOfDay day).1 + (yearOfDay day).2 = day ∧
      (yearOfDay day).2 < yearLength (isLeap (yearOfDay day).1) := by
  obtain ⟨cycle, century, span, year, inYear, ofDay, split, centuries, spans, years, days, last⟩ :=
    exists_parts day
  rw [ofDay]
  constructor
  · rw [daysBeforeYear_eq]
    omega
  · rw [yearLength]
    by_cases leap : isLeap (400 * cycle + (100 * century + 4 * span + year : Nat) + 1)
    · rw [if_pos leap]
      omega
    · rw [if_neg leap]
      rw [isLeap_iff] at leap
      omega

/-- A day falls into one year only. -/
theorem yearOfDay_eq {year : Int} {inYear : Nat} (within : inYear < yearLength (isLeap year)) :
    yearOfDay (daysBeforeYear year + inYear) = (year, inYear) := by
  obtain ⟨split, found⟩ := daysBeforeYear_yearOfDay (daysBeforeYear year + inYear)
  generalize yearOfDay (daysBeforeYear year + inYear) = result at split found
  obtain ⟨other, inOther⟩ := result
  have ends := daysBeforeYear_succ year
  have otherEnds := daysBeforeYear_succ other
  dsimp only at split found
  rcases Int.lt_trichotomy year other with earlier | rfl | later
  · have apart := daysBeforeYear_le (show year + 1 ≤ other by omega)
    omega
  · have same : inOther = inYear := by omega
    rw [same]
  · have apart := daysBeforeYear_le (show other + 1 ≤ year by omega)
    omega

/-! ## Months -/

/-- The number of days of a stretch of months. -/
def total (lengths : List Nat) : Nat := lengths.foldl (· + ·) 0

theorem total_cons (length : Nat) (later : List Nat) :
    total (length :: later) = length + total later := by
  rw [total, List.foldl_cons, Nat.zero_add]
  exact @List.foldl_assoc _ (· + ·) _ later length 0

theorem total_append (before later : List Nat) :
    total (before ++ later) = total before + total later := by
  induction before with
  | nil => exact (Nat.zero_add _).symm
  | cons first before ih => rw [List.cons_append, total_cons, ih, total_cons, Nat.add_assoc]

/-- The months of a year have the days of the year. -/
theorem total_monthLengths (leap : Bool) : total (monthLengths leap) = yearLength leap := by
  cases leap <;> rfl

/-- A day within a month is located there. -/
theorem locate_append (month : Nat) (before after : List Nat) {length day : Nat}
    (within : day < length) :
    locate month (before ++ length :: after) (total before + day) =
      (month + before.length, day + 1) := by
  induction before generalizing month with
  | nil =>
    rw [List.nil_append, total, List.foldl_nil, Nat.zero_add, locate, if_pos within]
    rfl
  | cons first before ih =>
    have later : total (first :: before) + day - first = total before + day := by
      rw [total_cons]
      omega
    have apart : ¬ total (first :: before) + day < first := by
      rw [total_cons]
      omega
    rw [List.cons_append, locate, if_neg apart, later, ih, List.length_cons, Nat.add_assoc,
      Nat.add_comm 1]

/-- Each day of a stretch of months falls into one of them. -/
theorem exists_month {lengths : List Nat} {day : Nat} (within : day < total lengths) :
    ∃ before length after inMonth, lengths = before ++ length :: after ∧
      day = total before + inMonth ∧ inMonth < length := by
  induction lengths generalizing day with
  | nil => exact absurd within (Nat.not_lt_zero day)
  | cons first later ih =>
    by_cases here : day < first
    · exact ⟨[], first, later, day, rfl, (Nat.zero_add day).symm, here⟩
    · rw [total_cons] at within
      obtain ⟨before, length, after, inMonth, rfl, split, inside⟩ :=
        ih (show day - first < total later by omega)
      refine ⟨first :: before, length, after, inMonth, rfl, ?_, inside⟩
      rw [total_cons]
      omega

/-- A day of the calendar is a day of one of the months of its year. -/
theorem isDate_iff {year : Int} {month day : Nat} :
    isDate ⟨year, month, day⟩ ↔ ∃ before length after inMonth,
      monthLengths (isLeap year) = before ++ length :: after ∧ month = 1 + before.length ∧
        day = inMonth + 1 ∧ inMonth < length := by
  simp only [isDate, monthLength, Bool.and_eq_true, decide_eq_true_eq]
  constructor
  · rintro ⟨positive, within⟩
    by_cases none : month = 0
    · rw [if_pos none] at within
      omega
    rw [if_neg none, List.getD_eq_getElem?_getD] at within
    cases found : (monthLengths (isLeap year))[month - 1]? with
    | none =>
      rw [found, Option.getD_none] at within
      omega
    | some length =>
      rw [found, Option.getD_some] at within
      obtain ⟨inside, isLength⟩ := List.getElem?_eq_some_iff.mp found
      refine ⟨(monthLengths (isLeap year)).take (month - 1), length,
        (monthLengths (isLeap year)).drop (month - 1 + 1), day - 1, ?_, ?_, ?_, ?_⟩
      · rw [← isLength, ← List.drop_eq_getElem_cons inside, List.take_append_drop]
      · rw [List.length_take_of_le (Nat.le_of_lt inside)]
        omega
      · omega
      · omega
  · rintro ⟨before, length, after, inMonth, months, rfl, rfl, within⟩
    have numbered : 1 + before.length ≠ 0 := by omega
    rw [if_neg numbered, months, Nat.add_sub_cancel_left]
    refine ⟨Nat.succ_pos inMonth, ?_⟩
    simpa using Nat.succ_le_of_lt within

/-! ## Dates -/

variable {year : Int} {before after : List Nat} {length inMonth : Nat}

/-- The number of a day counts the years and months before it. -/
theorem dayNumber_of_month
    (months : monthLengths (isLeap year) = before ++ length :: after) :
    dayNumber ⟨year, 1 + before.length, inMonth + 1⟩ =
      daysBeforeYear year + (total before + inMonth : Nat) - epoch := by
  rw [dayNumber, daysBeforeMonth, months, Nat.add_sub_cancel_left, List.take_left, ← total]
  dsimp only
  omega

/-- The day of that number is found in its year and month. -/
theorem dateOfDay_of_month (months : monthLengths (isLeap year) = before ++ length :: after)
    (within : inMonth < length) :
    dateOfDay (daysBeforeYear year + (total before + inMonth : Nat) - epoch) =
      ⟨year, 1 + before.length, inMonth + 1⟩ := by
  have inYear : total before + inMonth < yearLength (isLeap year) := by
    rw [← total_monthLengths, months, total_append, total_cons]
    omega
  rw [dateOfDay, Int.sub_add_cancel, yearOfDay_eq inYear]
  dsimp only
  rw [months, locate_append 1 before after within]

/-- The days up to the date of a day are counted by the day itself. -/
theorem dayNumber_dateOfDay (day : Int) :
    isDate (dateOfDay day) ∧ dayNumber (dateOfDay day) = day := by
  obtain ⟨split, found⟩ := daysBeforeYear_yearOfDay (day + epoch)
  generalize yearOfDay (day + epoch) = result at split found
  obtain ⟨year, inYear⟩ := result
  dsimp only at split found
  rw [← total_monthLengths] at found
  obtain ⟨before, length, after, inMonth, months, rfl, within⟩ := exists_month found
  obtain rfl : day = daysBeforeYear year + (total before + inMonth : Nat) - epoch := by omega
  rw [dateOfDay_of_month months within]
  exact ⟨isDate_iff.mpr ⟨before, length, after, inMonth, months, rfl, rfl, within⟩,
    dayNumber_of_month months⟩

/-- A date has at most twelve months and thirty-one days. -/
theorem month_day_le_of_isDate {year : Int} {month day : Nat}
    (isDay : isDate ⟨year, month, day⟩) : month ≤ 12 ∧ day ≤ 31 := by
  obtain ⟨before, length, after, inMonth, months, isMonth, isInMonth, within⟩ :=
    isDate_iff.mp isDay
  have count : ∀ leap, (monthLengths leap).length = 12 := by decide
  have longest : ∀ leap, ∀ length ∈ monthLengths leap, length ≤ 31 := by decide
  have counted := count (isLeap year)
  have short := longest (isLeap year) length
    (months ▸ List.mem_append_right before List.mem_cons_self)
  rw [months, List.length_append, List.length_cons] at counted
  exact ⟨by omega, by omega⟩

/-- The date of a day that is counted up to a date is that date. -/
theorem dateOfDay_dayNumber {date : Date} (isDay : isDate date) :
    dateOfDay (dayNumber date) = date := by
  obtain ⟨year, month, day⟩ := date
  obtain ⟨before, length, after, inMonth, months, rfl, rfl, within⟩ := isDate_iff.mp isDay
  rw [dayNumber_of_month months, dateOfDay_of_month months within]

end PortableFilter.Calendar
