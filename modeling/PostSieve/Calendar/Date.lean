/-! Days of the proleptic Gregorian calendar, and their numbers counted from 1 January 1970. -/

namespace PostSieve.Calendar

def isLeapYear (year : Int) : Bool :=
  year % 4 == 0 && (year % 100 != 0 || year % 400 == 0)

/-- The lengths of the months of a year, January first. -/
def monthLengths (year : Int) : List Nat :=
  [31, if isLeapYear year then 29 else 28, 31, 30, 31, 30, 31, 31, 30, 31, 30, 31]

/-- The length of month `month`, counted from 1. -/
def daysInMonth (year : Int) (month : Nat) : Nat := (monthLengths year)[month - 1]?.getD 0

theorem monthLengths_length (year : Int) : (monthLengths year).length = 12 := rfl

/-- A day of the calendar; months and days count from 1. -/
structure Date where
  year : Int
  month : Nat
  day : Nat
  month_pos : 1 ≤ month
  month_le : month ≤ 12
  day_pos : 1 ≤ day
  day_le : day ≤ daysInMonth year month
deriving DecidableEq

/-- The number of days from 1 January 1970 to 1 January of `year`. -/
def daysBeforeYear (year : Int) : Int :=
  365 * (year - 1) + (year - 1) / 4 - (year - 1) / 100 + (year - 1) / 400 - 719162

/-- The days of some spans together. -/
def total : List Nat → Nat
  | [] => 0
  | length :: lengths => length + total lengths

/-- The number of days of `year` in front of month `month`. -/
def daysBeforeMonth (year : Int) (month : Nat) : Nat := total ((monthLengths year).take (month - 1))

/-- The year of the day with number `day`: the mean year length gives it up to one. -/
def yearOfDay (day : Int) : Int :=
  let year := 400 * (day + 719162) / 146097 + 1
  if day < daysBeforeYear year then year - 1
  else if daysBeforeYear (year + 1) ≤ day then year + 1
  else year

/-- The index of the span of `lengths` that holds position `n`, and the place of `n` in it. -/
def locate : List Nat → Nat → Nat × Nat
  | [], n => (0, n)
  | length :: lengths, n =>
    if n < length then (0, n)
    else
      let (i, place) := locate lengths (n - length)
      (i + 1, place)

theorem locate_spec : ∀ (lengths : List Nat) (n : Nat), n < total lengths →
    (locate lengths n).2 < lengths[(locate lengths n).1]?.getD 0 ∧
      total (lengths.take (locate lengths n).1) + (locate lengths n).2 = n
  | [], n, h => absurd h (Nat.not_lt_zero n)
  | length :: lengths, n, h => by
    unfold locate
    split
    · simp_all [total]
    · rename_i hn
      have ih := locate_spec lengths (n - length) (by rw [total] at h; omega)
      refine ⟨by simpa using ih.1, ?_⟩
      simp only [List.take_succ_cons, total]
      omega

theorem locate_lt (lengths : List Nat) (n : Nat) (h : n < total lengths) :
    (locate lengths n).1 < lengths.length := by
  have := (locate_spec lengths n h).1
  cases hget : lengths[(locate lengths n).1]? with
  | none => simp [hget] at this
  | some _ => exact (List.getElem?_eq_some_iff.mp hget).1

/-- A year holds 365 days, a leap year 366. -/
theorem daysBeforeYear_succ (year : Int) :
    daysBeforeYear (year + 1) = daysBeforeYear year + total (monthLengths year) := by
  simp only [daysBeforeYear, monthLengths, isLeapYear, total]
  by_cases h4 : year % 4 = 0 <;> by_cases h100 : year % 100 = 0 <;>
    by_cases h400 : year % 400 = 0 <;> simp [h4, h100, h400] <;> omega

theorem daysBeforeYear_yearOfDay_le (day : Int) : daysBeforeYear (yearOfDay day) ≤ day := by
  unfold yearOfDay
  simp only
  split
  · unfold daysBeforeYear at *; omega
  · split <;> omega

theorem lt_daysBeforeYear_yearOfDay_succ (day : Int) :
    day < daysBeforeYear (yearOfDay day + 1) := by
  unfold yearOfDay
  simp only
  split
  · rename_i h; simpa using h
  · split
    · unfold daysBeforeYear at *; omega
    · omega

/-- The number of days of its year in front of the day with number `day`. -/
def dayOfYear (day : Int) : Nat := (day - daysBeforeYear (yearOfDay day)).toNat

theorem dayOfYear_lt (day : Int) : dayOfYear day < total (monthLengths (yearOfDay day)) := by
  have := daysBeforeYear_yearOfDay_le day
  have := lt_daysBeforeYear_yearOfDay_succ day
  have := daysBeforeYear_succ (yearOfDay day)
  unfold dayOfYear
  omega

namespace Date

/-- The date with these numbers, if the calendar has it. -/
def ofParts? (year : Int) (month day : Nat) : Option Date :=
  if h : (1 ≤ month ∧ month ≤ 12) ∧ 1 ≤ day ∧ day ≤ daysInMonth year month then
    some ⟨year, month, day, h.1.1, h.1.2, h.2.1, h.2.2⟩
  else none

/-- The number of the day, counted from 1 January 1970. -/
def number (d : Date) : Int :=
  daysBeforeYear d.year + daysBeforeMonth d.year d.month + (d.day - 1)

/-- The date of the day with number `day`. -/
def ofNumber (day : Int) : Date where
  year := yearOfDay day
  month := (locate (monthLengths (yearOfDay day)) (dayOfYear day)).1 + 1
  day := (locate (monthLengths (yearOfDay day)) (dayOfYear day)).2 + 1
  month_pos := by omega
  month_le := by
    have := locate_lt _ _ (dayOfYear_lt day)
    rw [monthLengths_length] at this
    omega
  day_pos := by omega
  day_le := by
    have := (locate_spec _ _ (dayOfYear_lt day)).1
    rw [daysInMonth, Nat.add_sub_cancel]
    omega

/-- The day of the week, Sunday being 0: 1 January 1970 was a Thursday. -/
def weekday (d : Date) : Nat := ((d.number + 4) % 7).toNat

/-- The date `months` calendar months earlier; a day that the month found there lacks becomes its
last day. -/
def monthsEarlier (d : Date) (months : Nat) : Date :=
  let total := 12 * d.year + (d.month - 1) - months
  let year := total / 12
  let month := (total % 12).toNat + 1
  have h : 1 ≤ daysInMonth year month := by
    have : month ≤ 12 := by omega
    have : month - 1 = 0 ∨ month - 1 = 1 ∨ month - 1 = 2 ∨ month - 1 = 3 ∨ month - 1 = 4 ∨
      month - 1 = 5 ∨ month - 1 = 6 ∨ month - 1 = 7 ∨ month - 1 = 8 ∨ month - 1 = 9 ∨
      month - 1 = 10 ∨ month - 1 = 11 := by omega
    unfold daysInMonth monthLengths
    rcases this with h | h | h | h | h | h | h | h | h | h | h | h <;> rw [h] <;> simp
    split <;> omega
  { year, month
    day := min d.day (daysInMonth year month)
    month_pos := by omega
    month_le := by omega
    day_pos := by have := d.day_pos; omega
    day_le := by omega }

end Date

end PostSieve.Calendar
