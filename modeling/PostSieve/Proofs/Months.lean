import PostSieve.Proofs.Dates

/-! Counting months back: no day overtakes another one, but days at the end of a month become the
same day where the month counted back to is too short for them. -/

namespace PostSieve.Calendar

/-! ### Days in front of a month -/

theorem total_take_succ (lengths : List Nat) (n : Nat) :
    total (lengths.take (n + 1)) = total (lengths.take n) + lengths[n]?.getD 0 := by
  induction lengths generalizing n with
  | nil => simp [total]
  | cons length lengths ih =>
    cases n with
    | zero => simp [total]
    | succ n =>
      rw [List.take_succ_cons, List.take_succ_cons, total, total, ih, List.getElem?_cons_succ]
      omega

theorem total_take_mono (lengths : List Nat) {n m : Nat} (h : n ≤ m) :
    total (lengths.take n) ≤ total (lengths.take m) := by
  have hTake := total_take_le (lengths.take m) n
  rwa [List.take_take, Nat.min_eq_left h] at hTake

namespace Date

theorem day_le_total (d : Date) :
    daysBeforeMonth d.year d.month + d.day ≤ total ((monthLengths d.year).take d.month) := by
  have hTotal := total_take_succ (monthLengths d.year) (d.month - 1)
  have hDay := d.day_le
  rw [Nat.sub_add_cancel d.month_pos] at hTotal
  rw [daysInMonth] at hDay
  rw [daysBeforeMonth]
  omega

/-! ### The order of days -/

/-- The number of the month that a day is in, counted from the beginning of the year 0. -/
def monthIndex (d : Date) : Int := 12 * d.year + (d.month - 1)

variable {d e : Date}

theorem monthIndex_eq_iff : d.monthIndex = e.monthIndex ↔ d.year = e.year ∧ d.month = e.month := by
  have := d.month_pos
  have := d.month_le
  have := e.month_pos
  have := e.month_le
  simp only [monthIndex]
  omega

/-- The days of one month come before those of a later one. -/
theorem number_lt_of_monthIndex_lt (h : d.monthIndex < e.monthIndex) : d.number < e.number := by
  have hDay := d.day_le_total
  have hFirst := e.day_pos
  have hMonth := e.month_pos
  have hMonths : d.year < e.year ∨ d.year = e.year ∧ d.month < e.month := by
    have := d.month_pos
    have := e.month_le
    simp only [monthIndex] at h
    omega
  simp only [number]
  rcases hMonths with hYear | ⟨hYear, hMonth⟩
  · have hTotal := total_take_le (monthLengths d.year) d.month
    have hNext := daysBeforeYear_succ d.year
    have hYears := daysBeforeYear_le (show d.year + 1 ≤ e.year by omega)
    omega
  · have hTotal := total_take_mono (monthLengths d.year) (show d.month ≤ e.month - 1 by omega)
    have hBefore : daysBeforeMonth e.year e.month =
        total ((monthLengths e.year).take (e.month - 1)) := rfl
    rw [hYear] at hDay hTotal ⊢
    omega

/-- Within a month the days are counted on. -/
theorem number_add_day (h : d.monthIndex = e.monthIndex) :
    d.number + e.day = e.number + d.day := by
  obtain ⟨hYear, hMonth⟩ := monthIndex_eq_iff.mp h
  simp only [number, hYear, hMonth]
  omega

theorem monthIndex_le_of_number_le (h : d.number ≤ e.number) : d.monthIndex ≤ e.monthIndex := by
  by_contra hMonth
  have := number_lt_of_monthIndex_lt (Int.not_le.mp hMonth)
  omega

/-! ### Months earlier -/

theorem monthIndex_monthsEarlier (d : Date) (months : Nat) :
    (d.monthsEarlier months).monthIndex = d.monthIndex - months := by
  have := d.month_pos
  simp only [monthIndex, monthsEarlier]
  omega

/-- The length of the month that lies months earlier. -/
def lengthEarlier (d : Date) (months : Nat) : Nat :=
  daysInMonth (d.monthsEarlier months).year (d.monthsEarlier months).month

theorem day_monthsEarlier (d : Date) (months : Nat) :
    (d.monthsEarlier months).day = min d.day (d.lengthEarlier months) := rfl

theorem lengthEarlier_eq (h : d.monthIndex = e.monthIndex) (months : Nat) :
    d.lengthEarlier months = e.lengthEarlier months := by
  obtain ⟨hYear, hMonth⟩ := monthIndex_eq_iff.mp h
  simp only [lengthEarlier, monthsEarlier, hYear, hMonth]

theorem number_monthsEarlier_le (h : d.number ≤ e.number) (months : Nat) :
    (d.monthsEarlier months).number ≤ (e.monthsEarlier months).number := by
  have hIndex := monthIndex_monthsEarlier d months
  have hIndex' := monthIndex_monthsEarlier e months
  -- Days of different months stay in different months; those of one month are cut to one length.
  rcases Int.lt_or_eq_of_le (monthIndex_le_of_number_le h) with hMonth | hMonth
  · have := @number_lt_of_monthIndex_lt (d.monthsEarlier months) (e.monthsEarlier months) (by omega)
    omega
  · have hDay := number_add_day hMonth
    have hDay' := @number_add_day (d.monthsEarlier months) (e.monthsEarlier months) (by omega)
    rw [day_monthsEarlier, day_monthsEarlier, lengthEarlier_eq hMonth] at hDay'
    omega

/-- Two days become the same one if they are days of one month for both of which the earlier month
is too short, or whose last day one of them has the number of, and not otherwise. -/
theorem number_monthsEarlier_eq_iff (h : d.number < e.number) (months : Nat) :
    (d.monthsEarlier months).number = (e.monthsEarlier months).number ↔
      d.monthIndex = e.monthIndex ∧ d.lengthEarlier months ≤ d.day := by
  have hIndex := monthIndex_monthsEarlier d months
  have hIndex' := monthIndex_monthsEarlier e months
  rcases Int.lt_or_eq_of_le (monthIndex_le_of_number_le (Int.le_of_lt h)) with hMonth | hMonth
  · have := @number_lt_of_monthIndex_lt (d.monthsEarlier months) (e.monthsEarlier months) (by omega)
    omega
  · have hDay := number_add_day hMonth
    have hDay' := @number_add_day (d.monthsEarlier months) (e.monthsEarlier months) (by omega)
    rw [day_monthsEarlier, day_monthsEarlier, ← lengthEarlier_eq hMonth] at hDay'
    omega

end Date

end PostSieve.Calendar
