import PostSieve.Calendar.Timestamp
import PostSieve.Proofs.CreationTimes

/-! Timestamps: the written form of an instant is read as the same instant, in every year of the
range, with every fraction of a second and in leap seconds. -/

namespace PostSieve.Calendar

/-! ### Years and fractions -/

theorem takeWhile_padded (width n : Nat) {c : Char} (hc : c.isDigit = false) (rest : List Char) :
    ((padded width n).toList ++ c :: rest).takeWhile Char.isDigit = (padded width n).toList :=
  Rule.takeWhile_run (fun _ => isDigit_of_mem_padded) hc rest

theorem takeLongNumber_padded (width : Nat) {n : Nat} (h : n < 0x8000000000000000) {c : Char}
    (hc : c.isDigit = false) (rest : List Char) :
    takeLongNumber ((padded width n).toList ++ c :: rest) = some (n, c :: rest) := by
  have hNe := toList_padded_ne_nil width n
  simp only [takeLongNumber]
  rw [takeWhile_padded width n hc, decimalValue_padded, if_neg (by simp [hNe, h]), List.drop_left]

/-- A year is read back from up to four digits, and with its sign from any number of them. -/
theorem takeYear_yearText {year : Int} (h : year.natAbs < 0x8000000000000000) {c : Char}
    (hc : c.isDigit = false) (rest : List Char) :
    takeYear ((yearText year).toList ++ c :: rest) = some (year, c :: rest) := by
  have hLong := takeLongNumber_padded 4 h hc rest
  rw [yearText]
  split
  · rename_i hFour
    rw [takeYear_padded (by omega), Int.toNat_of_nonneg hFour.1]
  · rename_i hMore
    rw [String.toList_append]
    split
    · have hMinus (text : List Char) : takeYear ('-' :: text) =
          (takeLongNumber text).map fun read => (-(read.1 : Int), read.2) := rfl
      have hYear : -(year.natAbs : Int) = year := by omega
      show takeYear ('-' :: ((padded 4 year.natAbs).toList ++ c :: rest)) = _
      rw [hMinus, hLong]
      exact congrArg (fun year => some (year, c :: rest)) hYear
    · have hPlus (text : List Char) : takeYear ('+' :: text) =
          (takeLongNumber text).map fun read => ((read.1 : Int), read.2) := rfl
      have hYear : (year.natAbs : Int) = year := by omega
      show takeYear ('+' :: ((padded 4 year.natAbs).toList ++ c :: rest)) = _
      rw [hPlus, hLong]
      exact congrArg (fun year => some (year, c :: rest)) hYear

theorem fractionNanos_padded {width n : Nat} (hPos : 0 < width) (hWidth : width ≤ 9)
    (h : n < Nat.pow 10 width) :
    fractionNanos (padded width n).toList = n * Nat.pow 10 (9 - width) := by
  have hLength := length_padded hPos h
  have hKept : (padded width n).toList.take 9 = (padded width n).toList :=
    List.take_of_length_le (hLength.trans_le hWidth)
  simp only [fractionNanos]
  rw [hKept, hLength, decimalValue_padded]

theorem takeFraction_padded {width n : Nat} (hPos : 0 < width) (hWidth : width ≤ 9)
    (h : n < Nat.pow 10 width) {c : Char} (hc : c.isDigit = false) (rest : List Char) :
    takeFraction (("." ++ padded width n).toList ++ c :: rest) =
      some (n * Nat.pow 10 (9 - width), c :: rest) := by
  have hPoint : ("." ++ padded width n).toList ++ c :: rest =
      '.' :: ((padded width n).toList ++ c :: rest) := by
    rw [String.toList_append]
    rfl
  rw [hPoint]
  simp only [takeFraction]
  rw [takeWhile_padded width n hc, if_neg (toList_padded_ne_nil width n), List.drop_left,
    fractionNanos_padded hPos hWidth h]

/-- A fraction of a second is read back from as few digits as write it. -/
theorem takeFraction_fractionText {nanos : Nat} (h : nanos < 1000000000) {c : Char}
    (hc : c.isDigit = false) (hPoint : c ≠ '.') (rest : List Char) :
    takeFraction ((fractionText nanos).toList ++ c :: rest) = some (nanos, c :: rest) := by
  have hMillis : nanos / 1000000 < Nat.pow 10 3 := by
    show _ < 1000
    omega
  have hMicros : nanos / 1000 < Nat.pow 10 6 := by
    show _ < 1000000
    omega
  rw [fractionText]
  split_ifs with hNone hThree hSix
  · subst hNone
    show takeFraction (c :: rest) = _
    unfold takeFraction
    split
    · rename_i hEq
      exact absurd (List.cons.inj hEq).1 hPoint
    · rfl
  · rw [takeFraction_padded (by decide) (by decide) hMillis hc]
    have hValue : nanos / 1000000 * 1000000 = nanos := by omega
    exact congrArg (fun n => some (n, c :: rest)) hValue
  · rw [takeFraction_padded (by decide) (by decide) hMicros hc]
    have hValue : nanos / 1000 * 1000 = nanos := by omega
    exact congrArg (fun n => some (n, c :: rest)) hValue
  · rw [takeFraction_padded (by decide) (by decide) h hc]
    exact congrArg (fun n => some (n, c :: rest)) (Nat.mul_one nanos)

/-! ### The layout of a timestamp -/

theorem read_month {n : Nat} (h : n < 100) (fields : Fields) (rest : List Char) :
    LayoutItem.month.read fields ((padded 2 n).toList ++ rest) =
      some ({ fields with month := n }, rest) := by
  rw [LayoutItem.read, takeNumber_padded (by decide) h]
  rfl

theorem read_yearText {year : Int} (h : year.natAbs < 0x8000000000000000) {c : Char}
    (hc : c.isDigit = false) (fields : Fields) (rest : List Char) :
    LayoutItem.year.read fields ((yearText year).toList ++ c :: rest) =
      some ({ fields with year }, c :: rest) := by
  rw [LayoutItem.read, takeYear_yearText h hc]
  rfl

theorem read_timeMark (fields : Fields) (rest : List Char) :
    LayoutItem.timeMark.read fields ('T' :: rest) = some (fields, rest) := by
  rw [LayoutItem.read, if_pos (Or.inl rfl)]

theorem read_zone {text rest : List Char} {offset : Int} (h : takeZone text = some (offset, rest))
    (fields : Fields) :
    LayoutItem.zone.read fields text = some ({ fields with offset }, rest) := by
  rw [LayoutItem.read, h]
  rfl

theorem read_fractionText {nanos : Nat} (h : nanos < 1000000000) {c : Char}
    (hc : c.isDigit = false) (hPoint : c ≠ '.') (fields : Fields) (rest : List Char) :
    LayoutItem.fraction.read fields ((fractionText nanos).toList ++ c :: rest) =
      some ({ fields with nanos }, c :: rest) := by
  rw [LayoutItem.read, takeFraction_fractionText h hc hPoint]
  rfl

/-- The texts behind a timestamp for Coordinated Universal Time. -/
def utcTexts : List String := ["Z", "+00:00"]

namespace Instant

variable (t : Instant)

/-- The fields that a layout reads from an instant as it is written. -/
def clockFields : Fields where
  year := t.date.year
  month := t.date.month
  day := t.date.day
  hour := t.secondOfDay / 3600
  minute := t.secondOfDay / 60 % 60
  second := t.secondOfDay % 60 + t.nanos / 1000000000
  nanos := t.nanos % 1000000000

theorem secondOfDay_lt : t.secondOfDay < 86400 := by
  rw [secondOfDay]
  omega

theorem seconds_eq : t.seconds = 86400 * t.date.number + t.secondOfDay := by
  have hNumber : t.date.number = t.seconds / 86400 := Date.number_ofNumber _
  rw [hNumber, secondOfDay]
  omega

/-- The instants of the range fall into the years of the range. -/
theorem year_bounds : -262143 ≤ t.date.year ∧ t.date.year ≤ 262142 := by
  have hFirst := t.first_le
  have hLast := t.le_last
  have hBegin : daysBeforeYear t.date.year ≤ t.seconds / 86400 := daysBeforeYear_yearOfDay_le _
  have hEnd : t.seconds / 86400 < daysBeforeYear (t.date.year + 1) :=
    lt_daysBeforeYear_yearOfDay_succ _
  simp only [firstSecond, lastSecond] at hFirst hLast
  constructor
  · by_contra hYear
    have hBefore : daysBeforeYear (t.date.year + 1) ≤ daysBeforeYear (-262143) :=
      daysBeforeYear_le (by omega)
    have hDay : daysBeforeYear (-262143) = -96465292 := rfl
    omega
  · by_contra hYear
    have hBehind : daysBeforeYear 262143 ≤ daysBeforeYear t.date.year :=
      daysBeforeYear_le (by omega)
    have hDay : daysBeforeYear 262143 = 95026237 := rfl
    omega

theorem toList_clockText_append (zone : String) : (t.clockText ++ zone).toList =
    (yearText t.date.year).toList ++ '-' :: ((padded 2 t.date.month).toList ++ '-' ::
      ((padded 2 t.date.day).toList ++ 'T' :: ((padded 2 (t.secondOfDay / 3600)).toList ++ ':' ::
        ((padded 2 (t.secondOfDay / 60 % 60)).toList ++ ':' ::
          ((padded 2 (t.secondOfDay % 60 + t.nanos / 1000000000)).toList ++
            ((fractionText (t.nanos % 1000000000)).toList ++ zone.toList)))))) := by
  simp [clockText]

theorem read_timestampLayout {zone : String} (hZone : zone ∈ utcTexts) :
    Layout.read timestampLayout {} (t.clockText ++ zone).toList = some t.clockFields := by
  have hTime := t.secondOfDay_lt
  have hYear := t.year_bounds
  have hNanos := t.nanos_lt
  have hMonth := t.date.month_le
  have hDay := t.date.day_le.trans (daysInMonth_le _ _)
  have hDash (rest : List Char) : Visible ('-' :: rest) := ⟨_, rfl, rfl⟩
  have hColon (rest : List Char) : Visible (':' :: rest) := ⟨_, rfl, rfl⟩
  obtain ⟨c, rest, hText, hc, hPoint, hBlank, hRead⟩ : ∃ c rest, zone.toList = c :: rest ∧
      c.isDigit = false ∧ c ≠ '.' ∧ isBlank c = false ∧ takeZone (c :: rest) = some (0, []) := by
    simp only [utcTexts, List.mem_cons, List.not_mem_nil, or_false] at hZone
    rcases hZone with rfl | rfl
    · exact ⟨'Z', [], rfl, by decide⟩
    · exact ⟨'+', "00:00".toList, rfl, by decide⟩
  have hVisible : Visible (c :: rest) := ⟨c, rfl, hBlank⟩
  rw [toList_clockText_append, hText, timestampLayout]
  rw [Layout.read_cons (read_yearText (by omega) (by decide) _ _),
    Layout.read_cons ((hDash _).read_no_blank _), Layout.read_cons (read_literal _ _ _),
    Layout.read_cons (read_month (by omega) _ _),
    Layout.read_cons ((hDash _).read_no_blank _), Layout.read_cons (read_literal _ _ _),
    Layout.read_cons (read_day (by omega) _ _)]
  rw [Layout.read_cons (read_timeMark _ _), Layout.read_cons (read_hour (by omega) _ _),
    Layout.read_cons ((hColon _).read_no_blank _), Layout.read_cons (read_literal _ _ _),
    Layout.read_cons (read_minute (by omega) _ _),
    Layout.read_cons ((hColon _).read_no_blank _), Layout.read_cons (read_literal _ _ _),
    Layout.read_cons (read_second (by omega) _ _),
    Layout.read_cons (read_fractionText (by omega) hc hPoint _ _),
    Layout.read_cons (hVisible.read_no_blank _), Layout.read_cons (read_zone hRead _)]
  rfl

theorem date?_clockFields : t.clockFields.date? = some t.date := by
  have hYear := t.year_bounds
  have hRange : Fields.yearInRange t.date.year = true := by
    simp only [Fields.yearInRange, Bool.and_eq_true, decide_eq_true_eq]
    exact hYear
  have hDate : Date.ofParts? t.date.year t.date.month t.date.day = some t.date :=
    Date.ofParts?_eq_some_iff.mpr ⟨rfl, rfl, rfl⟩
  simp [Fields.date?, clockFields, hDate, hRange]

/-- Date, clock and fraction give back the instant, also in a leap second, which clocks show as the
second 60. -/
theorem instant?_clockFields : t.clockFields.instant? = some t := by
  have hTime := t.secondOfDay_lt
  have hNanos := t.nanos_lt
  have hLeap := t.leap
  have hSeconds := t.seconds_eq
  -- Only the last second of a minute is followed by a leap second.
  have hClock : 3600 * (t.secondOfDay / 3600) + 60 * (t.secondOfDay / 60 % 60) +
      min (t.secondOfDay % 60 + t.nanos / 1000000000) 59 = t.secondOfDay := by omega
  have hFraction : t.nanos % 1000000000 +
      (if t.secondOfDay % 60 + t.nanos / 1000000000 = 60 then 1000000000 else 0) = t.nanos := by
    split <;> omega
  unfold Fields.instant?
  rw [date?_clockFields]
  show ofParts? (86400 * t.date.number + (3600 * (t.secondOfDay / 3600) +
    60 * (t.secondOfDay / 60 % 60) + min (t.secondOfDay % 60 + t.nanos / 1000000000) 59 : Nat) - 0)
    (t.nanos % 1000000000 +
      if t.secondOfDay % 60 + t.nanos / 1000000000 = 60 then 1000000000 else 0) = some t
  rw [hClock, ← hSeconds, hFraction, Int.sub_zero]
  exact ofParts?_eq_some_iff.mpr ⟨rfl, rfl⟩

theorem readTimestamp?_clockText {zone : String} (hZone : zone ∈ utcTexts) :
    readTimestamp? (t.clockText ++ zone) = some t := by
  rw [readTimestamp?, t.read_timestampLayout hZone]
  exact t.instant?_clockFields

/-- A written instant is read back, whichever way it is written. -/
theorem readTimestamp?_text : readTimestamp? t.text = some t :=
  t.readTimestamp?_clockText (by decide)

theorem readTimestamp?_zuluText : readTimestamp? t.zuluText = some t :=
  t.readTimestamp?_clockText (by decide)

example : (Instant.mk 8210266876799 1500000000 (by decide) (by decide) (by decide)
    (by decide)).zuluText = "+262142-12-31T23:59:60.500Z" := by decide

end Instant

end PostSieve.Calendar
