import PostSieve.Proofs.Months
import PostSieve.Proofs.Timestamps
import PostSieve.Sample

/-! Counting an age back from a moment: the instant found is the one that unbounded numbers give,
and no step on the way to it fails unless that instant is out of range. -/

namespace PostSieve.Calendar

/-! ### Numbers of months -/

theorem word32?_eq_some_iff {n : Nat} {word : UInt32} : word32? n = some word ↔ word.toNat = n := by
  unfold word32?
  constructor
  · intro h
    split at h
    · rename_i hFits
      cases h
      exact UInt32.toNat_ofNat_of_lt' hFits
    · cases h
  · rintro rfl
    rw [if_pos word.toNat_lt, UInt32.ofNat_toNat]

theorem Age.totalMonths32?_eq_some_iff {age : Age} {months : UInt32} :
    age.totalMonths32? = some months ↔ months.toNat = age.totalMonths := by
  have hLt := months.toNat_lt
  simp only [totalMonths32?, Option.bind_eq_bind, Option.bind_eq_some_iff, word32?_eq_some_iff,
    totalMonths]
  constructor
  · rintro ⟨years, hYears, hMonths⟩
    omega
  · intro h
    -- The years alone make no more months than the years and months together.
    have hYears : age.years.toNat * 12 < UInt32.size := by
      show _ < 4294967296
      omega
    have hWord := UInt32.toNat_ofNat_of_lt' hYears
    exact ⟨.ofNat (age.years.toNat * 12), hWord, by omega⟩

/-! ### Earlier months -/

namespace Date

variable {d e : Date}

theorem number_injective (h : d.number = e.number) : d = e := by
  have hMonth : d.monthIndex = e.monthIndex := by
    have := monthIndex_le_of_number_le (Int.le_of_eq h)
    have := monthIndex_le_of_number_le (Int.le_of_eq h.symm)
    omega
  have hAdd := number_add_day hMonth
  have hDay : d.day = e.day := by omega
  obtain ⟨hYear, hMonth⟩ := monthIndex_eq_iff.mp hMonth
  cases d
  cases e
  exact (mk.injEq ..).mpr ⟨hYear, hMonth, hDay⟩

/-- Whether `earlier` is a day of the month that lies `months` months before `d`: the day with the
same number there, or the last one. -/
structure IsMonthsEarlier (months : Nat) (d earlier : Date) : Prop where
  month : earlier.monthIndex = d.monthIndex - months
  day : earlier.day = min d.day (daysInMonth earlier.year earlier.month)

theorem isMonthsEarlier_iff {months : Nat} :
    IsMonthsEarlier months d e ↔ e = d.monthsEarlier months := by
  constructor
  · intro h
    have hIndex : e.monthIndex = (d.monthsEarlier months).monthIndex := by
      rw [h.month, monthIndex_monthsEarlier]
    have hAdd := number_add_day hIndex
    obtain ⟨hYear, hMonth⟩ := monthIndex_eq_iff.mp hIndex
    have hDay := h.day
    rw [hYear, hMonth] at hDay
    rw [hDay, day_monthsEarlier, lengthEarlier] at hAdd
    exact number_injective (by omega)
  · rintro rfl
    exact ⟨monthIndex_monthsEarlier d months, rfl⟩

theorem monthsEarlier_zero (d : Date) : d.monthsEarlier 0 = d :=
  (isMonthsEarlier_iff.mp ⟨(Int.sub_zero _).symm, (Nat.min_eq_left d.day_le).symm⟩).symm

theorem number_monthsEarlier_lt (d : Date) {months more : Nat} (h : months < more) :
    (d.monthsEarlier more).number < (d.monthsEarlier months).number := by
  apply number_lt_of_monthIndex_lt
  rw [monthIndex_monthsEarlier, monthIndex_monthsEarlier]
  omega

theorem number_monthsEarlier_le_number (d : Date) (months : Nat) :
    (d.monthsEarlier months).number ≤ d.number := by
  have hZero := congrArg number d.monthsEarlier_zero
  rcases Nat.eq_zero_or_pos months with rfl | hPos
  · exact Int.le_of_eq hZero
  · have := d.number_monthsEarlier_lt hPos
    omega

end Date

/-! ### Instants -/

namespace Instant

variable {now t : Instant}

def firstDay : Date := ⟨-262143, 1, 1, by decide, by decide, by decide, by decide⟩

/-- The range is crossed long before there are too many months to count. -/
theorem months_le_maxMonths {months : Nat}
    (h : firstSecond ≤ 86400 * (now.date.monthsEarlier months).number + now.secondOfDay) :
    months ≤ maxMonths := by
  have hTime := now.secondOfDay_lt
  have hYear := now.year_bounds
  have hMonth := now.date.month_le
  have hFirst : firstDay.number = -96465292 := rfl
  have hIndex : firstDay.monthIndex ≤ (now.date.monthsEarlier months).monthIndex := by
    apply Date.monthIndex_le_of_number_le
    rw [firstSecond] at h
    omega
  -- The months of the whole range are 6291432.
  have hFirstIndex : firstDay.monthIndex = -3145716 := rfl
  rw [Date.monthIndex_monthsEarlier, hFirstIndex, Date.monthIndex] at hIndex
  rw [maxMonths]
  omega

theorem monthsEarlier?_eq_some_iff {months : Nat} :
    now.monthsEarlier? months = some t ↔
      t.seconds = 86400 * (now.date.monthsEarlier months).number + now.secondOfDay ∧
        t.nanos = now.nanos := by
  unfold monthsEarlier?
  split
  · exact ofParts?_eq_some_iff
  · rename_i hMany
    constructor
    · nofun
    · rintro ⟨hSeconds, -⟩
      exact absurd (months_le_maxMonths (hSeconds ▸ t.first_le)) hMany

theorem exists_monthsEarlier? {months : Nat}
    (h : firstSecond ≤ 86400 * (now.date.monthsEarlier months).number + now.secondOfDay) :
    ∃ t, now.monthsEarlier? months = some t := by
  have hEarlier := now.date.number_monthsEarlier_le_number months
  have hSeconds := now.seconds_eq
  have hLast := now.le_last
  have hLeap := now.leap
  exact ⟨⟨_, now.nanos, h, by omega, now.nanos_lt, by omega⟩,
    monthsEarlier?_eq_some_iff.mpr ⟨rfl, rfl⟩⟩

end Instant

/-! ### Ages -/

namespace Age

variable {age : Age} {now t : Instant}

/-- The day that the years and months of an age lead back to. -/
def monthDay (age : Age) (now : Instant) : Date := now.date.monthsEarlier age.totalMonths

/-- The time of day that is kept when an age is counted back, in seconds and nanoseconds. Where days
are counted back, a leap second is the second behind it. -/
def clock (age : Age) (now : Instant) : Nat × Nat :=
  if age.days ≠ 0 ∧ 1000000000 ≤ now.nanos then
    (now.secondOfDay + 1, now.nanos - 1000000000)
  else (now.secondOfDay, now.nanos)

/-- The second that an age leads back to, in range or not. -/
def secondBefore (age : Age) (now : Instant) : Int :=
  86400 * ((age.monthDay now).number - age.days.toNat) + (age.clock now).1

theorem toNat_days_ne_zero_iff : age.days.toNat ≠ 0 ↔ age.days ≠ 0 := by
  rw [Ne, ← UInt32.toNat_zero, UInt32.toNat_inj]

theorem clock_of_lt (age : Age) (h : now.nanos < 1000000000) :
    age.clock now = (now.secondOfDay, now.nanos) :=
  if_neg fun hLeap => absurd h (Nat.not_lt.mpr hLeap.2)

theorem clock_fst_le (age : Age) (now : Instant) :
    (age.clock now).1 < 86400 ∨
      (age.clock now).1 = 86400 ∧ age.days ≠ 0 ∧ 1000000000 ≤ now.nanos := by
  have hTime := now.secondOfDay_lt
  rw [clock]
  split
  · rename_i hLeap
    rcases Nat.lt_or_eq_of_le hTime with hLt | hEq
    · exact .inl hLt
    · exact .inr ⟨hEq, hLeap⟩
  · exact .inl hTime

theorem daysEarlier?_eq_some_iff {mid : Instant}
    (hSeconds : mid.seconds = 86400 * (age.monthDay now).number + now.secondOfDay)
    (hNanos : mid.nanos = now.nanos) :
    mid.daysEarlier? age.days.toNat = some t ↔
      t.seconds = age.secondBefore now ∧ t.nanos = (age.clock now).2 := by
  simp only [Instant.daysEarlier?, hNanos, toNat_days_ne_zero_iff, secondBefore, clock]
  split
  · have hSecond : mid.seconds + 1 - 86400 * age.days.toNat =
        86400 * ((age.monthDay now).number - age.days.toNat) + (now.secondOfDay + 1 : Nat) := by
      omega
    rw [hSecond, Instant.ofParts?_eq_some_iff]
  · have hSecond : mid.seconds - 86400 * age.days.toNat =
        86400 * ((age.monthDay now).number - age.days.toNat) + now.secondOfDay := by
      omega
    rw [hSecond, Instant.ofParts?_eq_some_iff]

/-- The day that the months lead to is in range if the second that the days lead to from there is,
since days lead back as well. -/
theorem first_le_of_secondBefore (h : firstSecond ≤ age.secondBefore now) :
    firstSecond ≤ 86400 * (age.monthDay now).number + now.secondOfDay := by
  rw [secondBefore, clock] at h
  split at h
  · rename_i hLeap
    have hDays := toNat_days_ne_zero_iff.mpr hLeap.1
    simp only at h
    omega
  · simp only at h
    omega

theorem before?_eq_some_iff : age.before? now = some t ↔
    t.seconds = age.secondBefore now ∧ t.nanos = (age.clock now).2 := by
  simp only [before?, Option.bind_eq_bind, Option.bind_eq_some_iff]
  constructor
  · rintro ⟨months, hTotal, mid, hMonths, hDays⟩
    rw [totalMonths32?_eq_some_iff.mp hTotal] at hMonths
    obtain ⟨hSeconds, hNanos⟩ := Instant.monthsEarlier?_eq_some_iff.mp hMonths
    exact (daysEarlier?_eq_some_iff hSeconds hNanos).mp hDays
  · intro h
    have hFirst := first_le_of_secondBefore (h.1 ▸ t.first_le)
    have hMany : age.totalMonths < UInt32.size :=
      (Instant.months_le_maxMonths hFirst).trans_lt (by decide)
    obtain ⟨mid, hMonths⟩ := Instant.exists_monthsEarlier? hFirst
    obtain ⟨hSeconds, hNanos⟩ := Instant.monthsEarlier?_eq_some_iff.mp hMonths
    have hTotal := UInt32.toNat_ofNat_of_lt' hMany
    exact ⟨.ofNat age.totalMonths, totalMonths32?_eq_some_iff.mpr hTotal, mid,
      hTotal.symm ▸ hMonths, (daysEarlier?_eq_some_iff hSeconds hNanos).mpr h⟩

theorem before_eq_ok_iff : age.before now = .ok t ↔
    t.seconds = age.secondBefore now ∧ t.nanos = (age.clock now).2 := by
  rw [← before?_eq_some_iff, before]
  split
  · rename_i hSome
    rw [hSome, Except.ok.injEq, Option.some_inj]
  · rename_i hNone
    rw [hNone]
    exact ⟨nofun, nofun⟩

theorem secondBefore_le (age : Age) (now : Instant) : age.secondBefore now ≤ now.seconds := by
  have hEarlier : (age.monthDay now).number ≤ now.date.number :=
    now.date.number_monthsEarlier_le_number _
  have hSeconds := now.seconds_eq
  rw [secondBefore, clock]
  split
  · rename_i hLeap
    have hDays := toNat_days_ne_zero_iff.mpr hLeap.1
    simp only
    omega
  · simp only
    omega

/-- There is an instant an age before a moment unless it lies before the range. -/
theorem exists_before_iff :
    (∃ t, age.before now = .ok t) ↔ firstSecond ≤ age.secondBefore now := by
  simp only [before_eq_ok_iff]
  constructor
  · rintro ⟨t, hSeconds, -⟩
    exact hSeconds ▸ t.first_le
  · intro hFirst
    have hNanos : (age.clock now).2 < 2000000000 := by
      have := now.nanos_lt
      rw [clock]
      split <;> simp only <;> omega
    -- A leap second is kept only where no days are counted back, and then at its time of day.
    have hLeap : 1000000000 ≤ (age.clock now).2 → age.secondBefore now % 60 = 59 := by
      have := now.nanos_lt
      have := now.leap
      have := now.seconds_eq
      rw [secondBefore, clock]
      split <;> simp only <;> omega
    have hLast := Int.le_trans (age.secondBefore_le now) now.le_last
    exact ⟨⟨_, _, hFirst, hLast, hNanos, hLeap⟩, rfl, rfl⟩

theorem before_eq_error_iff {e : AgeError} : age.before now = .error e ↔
    age.secondBefore now < firstSecond ∧ e = .outOfRange age.text := by
  rw [← Int.not_le, ← exists_before_iff, before]
  split
  · simp
  · simp [eq_comm]

/-! ### Counting back in unbounded numbers -/

/-- Whether an age leads from a moment back to a second: the civil date goes back by the months, the
time of day stays, and then so many days of 86400 seconds are taken away. -/
def LeadsTo (age : Age) (now : Instant) (second : Int) : Prop :=
  ∃ (d earlier : Date) (time : Nat), time < 86400 ∧ now.seconds = 86400 * d.number + time ∧
    d.IsMonthsEarlier (12 * age.years.toNat + age.months.toNat) earlier ∧
    second = 86400 * earlier.number + time - 86400 * age.days.toNat

theorem leadsTo_iff (hNow : now.nanos < 1000000000) {second : Int} :
    age.LeadsTo now second ↔ second = age.secondBefore now := by
  have hSeconds := now.seconds_eq
  have hTime := now.secondOfDay_lt
  simp only [secondBefore, age.clock_of_lt hNow]
  constructor
  · rintro ⟨d, earlier, time, hTime', hSeconds', hEarlier, rfl⟩
    obtain rfl : d = now.date := Date.number_injective (by omega)
    obtain rfl : earlier = age.monthDay now := Date.isMonthsEarlier_iff.mp hEarlier
    omega
  · rintro rfl
    exact ⟨now.date, age.monthDay now, now.secondOfDay, hTime, hSeconds,
      Date.isMonthsEarlier_iff.mpr rfl, by omega⟩

/-- The most seconds that a span of time can have: a signed number of 64 bits has to hold its
milliseconds. -/
def longestSpan : Nat := 9223372036854775

/-- Counting an age back from a moment outside of a leap second is exact. There is one second that
the age leads to in unbounded numbers; if it is in the range of the instants, the instant in it with
the fraction of the moment is what is found, and if it is not, the age is what is out of range. Nor
can the days be too many for a span of time. -/
theorem before_exact (age : Age) (hNow : now.nanos < 1000000000) :
    (∃ second, (∀ other, age.LeadsTo now other ↔ other = second) ∧
      (firstSecond ≤ second ∧ second ≤ lastSecond →
        ∃ t, age.before now = .ok t ∧ t.seconds = second ∧ t.nanos = now.nanos) ∧
      (¬ (firstSecond ≤ second ∧ second ≤ lastSecond) →
        age.before now = .error (.outOfRange age.text))) ∧
    86400 * age.days.toNat ≤ longestSpan := by
  have hDays := age.days.toNat_lt
  have hClock : (age.clock now).2 = now.nanos := congrArg Prod.snd (age.clock_of_lt hNow)
  have hLast := Int.le_trans (age.secondBefore_le now) now.le_last
  refine ⟨⟨age.secondBefore now, fun _ => leadsTo_iff hNow, ?_, ?_⟩, ?_⟩
  · rintro ⟨hFirst, -⟩
    obtain ⟨t, ht⟩ := exists_before_iff.mpr hFirst
    obtain ⟨hSeconds, hNanos⟩ := before_eq_ok_iff.mp ht
    exact ⟨t, ht, hSeconds, hNanos.trans hClock⟩
  · intro hRange
    have hFirst : age.secondBefore now < firstSecond := by
      by_contra hFirst
      exact hRange ⟨Int.not_lt.mp hFirst, hLast⟩
    exact before_eq_error_iff.mpr ⟨hFirst, rfl⟩
  · rw [longestSpan]
    omega

theorem before_exact_sample : Sample.now.nanos < 1000000000 ∧
    (∃ second, (∀ other, (mk 1 2 3).LeadsTo Sample.now other ↔ other = second) ∧
      (firstSecond ≤ second ∧ second ≤ lastSecond →
        ∃ t, (mk 1 2 3).before Sample.now = .ok t ∧ t.seconds = second ∧
          t.nanos = Sample.now.nanos) ∧
      (¬ (firstSecond ≤ second ∧ second ≤ lastSecond) →
        (mk 1 2 3).before Sample.now = .error (.outOfRange (mk 1 2 3).text))) ∧
    86400 * (mk 1 2 3).days.toNat ≤ longestSpan :=
  ⟨by decide, before_exact ⟨1, 2, 3⟩ (by decide)⟩

-- Noon of 12 April 2020.
example : (mk 1 2 3).before Sample.now = .ok (.ofSecond 1586692800 (by decide) (by decide)) := by
  decide

end Age

end PostSieve.Calendar
