import PostSieve.Archive
import PostSieve.Proofs.Dates
import PostSieve.Proofs.Decimals

/-! Creation times: an instant that is written as clocks show it somewhere on earth is read as the
same instant. -/

namespace PostSieve.Calendar

/-- A distance from Coordinated Universal Time in whole minutes, less than a day. -/
structure Offset where
  west : Bool := false
  minutes : Nat
  minutes_lt : minutes < 1440

namespace Offset

/-- The seconds by which clocks are ahead. -/
def seconds (o : Offset) : Int := if o.west then -(60 * o.minutes) else 60 * o.minutes

def sign (o : Offset) : Char := if o.west then '-' else '+'

/-- The offset as `+HHMM` or `-HHMM`. -/
def text (o : Offset) : List Char :=
  o.sign :: ((padded 2 (o.minutes / 60)).toList ++ (padded 2 (o.minutes % 60)).toList)

end Offset

/-- The short name of the day's weekday. -/
def Date.weekdayName (d : Date) : String := weekdayNames[d.weekday]?.getD ""

/-- The short name of the day's month. -/
def Date.monthName (d : Date) : String := monthNames[d.month - 1]?.getD ""

namespace Instant

/-- The seconds from 1970 on as clocks at an offset count them. -/
def localSeconds (t : Instant) (o : Offset) : Int := t.seconds + o.seconds

/-- The day on calendars at an offset. -/
def localDate (t : Instant) (o : Offset) : Date := Date.ofNumber (t.localSeconds o / 86400)

/-- The seconds of that day in front of the instant. -/
def localTime (t : Instant) (o : Offset) : Nat := (t.localSeconds o % 86400).toNat

/-- An instant as clocks and calendars at an offset show it, such as
`Wed Oct 10 20:19:24 +0000 2018`. -/
def localText (t : Instant) (o : Offset) : List Char :=
  let date := t.localDate o
  let time := t.localTime o
  date.weekdayName.toList ++ ' ' :: (date.monthName.toList ++ ' ' ::
    ((padded 2 date.day).toList ++ ' ' :: ((padded 2 (time / 3600)).toList ++ ':' ::
      ((padded 2 (time / 60 % 60)).toList ++ ':' :: ((padded 2 (time % 60)).toList ++ ' ' ::
        (o.text ++ ' ' :: (padded 4 date.year.toNat).toList))))))

end Instant

/-! ### Days -/

theorem Date.number_ofNumber (day : Int) : (Date.ofNumber day).number = day := by
  obtain ⟨-, hPlace⟩ := locate_spec _ _ (dayOfYear_lt day)
  have hYear := daysBeforeYear_yearOfDay_le day
  simp only [Date.number, Date.ofNumber, daysBeforeMonth, Nat.add_sub_cancel]
  have hDay : (dayOfYear day : Int) = day - daysBeforeYear (yearOfDay day) := by
    rw [dayOfYear]
    omega
  omega

theorem Date.weekday_lt (d : Date) : d.weekday < 7 := by
  rw [Date.weekday]
  omega

theorem Date.weekdayNames_getElem? (d : Date) :
    weekdayNames[d.weekday]? = some d.weekdayName := by
  have hLength : d.weekday < weekdayNames.length := d.weekday_lt
  rw [Date.weekdayName, List.getElem?_eq_getElem hLength, Option.getD_some]

theorem Date.monthNames_getElem? (d : Date) : monthNames[d.month - 1]? = some d.monthName := by
  have hMonth := d.month_pos
  have hLast := d.month_le
  have hLength : d.month - 1 < monthNames.length := by
    show d.month - 1 < 12
    omega
  rw [Date.monthName, List.getElem?_eq_getElem hLength, Option.getD_some]

theorem weekdayNames_nodup :
    (weekdayNames.map fun name => name.toList.map Char.toLower).Nodup := by decide

/-! ### The parts of a written time -/

theorem takeName_append {names : List String} {index : Nat} {name : String}
    (hNames : (names.map fun name => name.toList.map Char.toLower).Nodup)
    (hLengths : ∀ name ∈ names, name.toList.length = 3) (h : names[index]? = some name)
    (rest : List Char) : takeName names (name.toList ++ rest) = some (index, rest) := by
  have hLength : 3 = name.toList.length := (hLengths name (List.mem_of_getElem? h)).symm
  have hIndex := (findIdx?_names hNames).mpr ⟨name, h, rfl⟩
  simp only [takeName]
  rw [hLength, List.take_left, List.drop_left, hIndex]
  rfl

theorem takeNumber_padded {width n : Nat} (hWidth : 0 < width) (h : n < Nat.pow 10 width)
    (rest : List Char) : takeNumber width ((padded width n).toList ++ rest) = some (n, rest) := by
  have hRead := @takeNumber_digits _ rest (toList_padded_ne_nil width n)
    fun _ => isDigit_of_mem_padded
  rwa [length_padded hWidth h, decimalValue_padded] at hRead

theorem takeYear_padded {n : Nat} (h : n < 10000) (rest : List Char) :
    takeYear ((padded 4 n).toList ++ rest) = some ((n : Int), rest) := by
  rw [takeYear_digits (length_padded (by decide) h) fun _ => isDigit_of_mem_padded,
    decimalValue_padded]

/-- A written number of two digits. -/
theorem padded_two {n : Nat} (h : n < 100) : ∃ a b, (padded 2 n).toList = [a, b] ∧
    a.isDigit = true ∧ b.isDigit = true ∧ decimalValue [a, b] = n := by
  obtain ⟨a, b, hDigits⟩ := List.length_eq_two.mp
    (length_padded (by decide) h : (padded 2 n).toList.length = 2)
  have hAll : ∀ c ∈ [a, b], c.isDigit = true := by
    intro c hc
    rw [← hDigits] at hc
    exact isDigit_of_mem_padded hc
  have hValue := decimalValue_padded 2 n
  rw [hDigits] at hValue
  exact ⟨a, b, hDigits, hAll a (by simp), hAll b (by simp), hValue⟩

theorem takeHoursMinutes_padded {hours minutes : Nat} (hHours : hours < 100)
    (hMinutes : minutes < 60) (rest : List Char) :
    takeHoursMinutes ((padded 2 hours).toList ++ ((padded 2 minutes).toList ++ rest)) =
      some (3600 * hours + 60 * minutes, rest) := by
  obtain ⟨a, b, hHour, ha, hb, hHourValue⟩ := padded_two hHours
  obtain ⟨c, d, hMinute, hc, hd, hMinuteValue⟩ := @padded_two minutes (by omega)
  have hSkip : ([c, d] ++ rest).dropWhile (fun c => c == ':' || isBlank c) = c :: d :: rest := by
    have hColon : c ≠ ':' := by
      rintro rfl
      exact absurd hc (by decide)
    rw [List.cons_append, List.dropWhile_cons_of_neg (by simp [hColon, not_isBlank_of_isDigit hc])]
    rfl
  -- Below sixty minutes the first digit is below six.
  have hTens : digitValue c < 6 := by
    have hValue : decimalValue [c, d] = 10 * (10 * 0 + digitValue c) + digitValue d := rfl
    omega
  rw [hHour, hMinute, List.cons_append, List.cons_append, List.nil_append]
  simp only [takeHoursMinutes]
  rw [hSkip]
  simp only
  rw [if_pos ⟨by simp [ha, hb, hc, hd], hTens⟩, hHourValue, hMinuteValue]

theorem takeOffset_text (o : Offset) (rest : List Char) :
    takeOffset (o.text ++ rest) = some (o.seconds, rest) := by
  have hLt := o.minutes_lt
  have hDigits := @takeHoursMinutes_padded (o.minutes / 60) (o.minutes % 60) (by omega) (by omega)
    rest
  have hMinutes : 3600 * (o.minutes / 60) + 60 * (o.minutes % 60) = 60 * o.minutes := by omega
  rw [hMinutes] at hDigits
  rw [Offset.text, Offset.sign, Offset.seconds, List.cons_append, List.append_assoc]
  cases hWest : o.west with
  | false =>
    simp only [takeOffset, Bool.false_eq_true, if_false, Option.bind_eq_bind, Option.bind_some,
      hDigits]
    rw [if_pos (by omega)]
    push_cast
    rw [Int.one_mul]
  | true =>
    simp only [takeOffset, if_true, Option.bind_eq_bind, Option.bind_some, hDigits]
    rw [if_pos (by omega)]
    push_cast
    rw [Int.neg_one_mul]

/-! ### The layout of an archive -/

/-- A place of a layout that takes the start of a text leaves the other places to the rest. -/
theorem Layout.read_cons {item : LayoutItem} {layout : Layout} {fields fields' : Fields}
    {text rest : List Char} (h : item.read fields text = some (fields', rest)) :
    Layout.read (item :: layout) fields text = layout.read fields' rest := by
  rw [Layout.read, h]
  rfl

/-- Whether a text begins with a character that is not blank. -/
def Visible (text : List Char) : Prop := ∃ c ∈ text.head?, isBlank c = false

theorem Visible.append {text : List Char} (h : Visible text) (rest : List Char) :
    Visible (text ++ rest) := by
  obtain ⟨c, hHead, hc⟩ := h
  exact ⟨c, List.mem_head?_append_of_mem_head? hHead, hc⟩

theorem visible_padded (width n : Nat) : Visible (padded width n).toList := by
  obtain ⟨c, digits, hDigits⟩ := List.exists_cons_of_ne_nil (toList_padded_ne_nil width n)
  have hDigit : c.isDigit = true := by
    apply @isDigit_of_mem_padded width n
    rw [hDigits]
    exact List.mem_cons_self
  exact ⟨c, by rw [hDigits]; rfl, not_isBlank_of_isDigit hDigit⟩

theorem Date.visible_monthName (d : Date) : Visible d.monthName.toList := by
  have hAll : ∀ name ∈ monthNames, (name.toList.head?.any fun c => !isBlank c) = true := by decide
  have hName := hAll _ (List.mem_of_getElem? d.monthNames_getElem?)
  obtain ⟨c, hHead, hc⟩ := (Option.any_eq_true _ _).mp hName
  exact ⟨c, hHead, by simpa using hc⟩

theorem Offset.visible_text (o : Offset) : Visible o.text := by
  refine ⟨o.sign, rfl, ?_⟩
  rw [Offset.sign]
  split <;> rfl

theorem Visible.dropBlanks_eq {text : List Char} (h : Visible text) : dropBlanks text = text := by
  obtain ⟨c, hHead, hc⟩ := h
  cases text with
  | nil => cases hHead
  | cons a text =>
    cases hHead
    rw [dropBlanks, List.dropWhile_cons_of_neg (by simp [hc])]

theorem Visible.read_blank {text : List Char} (h : Visible text) (fields : Fields) :
    LayoutItem.blank.read fields (' ' :: text) = some (fields, text) := by
  have hDrop : dropBlanks (' ' :: text) = dropBlanks text := List.dropWhile_cons_of_pos rfl
  rw [LayoutItem.read, hDrop, h.dropBlanks_eq]

/-- There need not be a blank. -/
theorem Visible.read_no_blank {text : List Char} (h : Visible text) (fields : Fields) :
    LayoutItem.blank.read fields text = some (fields, text) := by
  rw [LayoutItem.read, h.dropBlanks_eq]

theorem read_weekdayName (d : Date) (fields : Fields) (rest : List Char) :
    LayoutItem.weekdayName.read fields (d.weekdayName.toList ++ rest) =
      some ({ fields with weekday := some d.weekday }, rest) := by
  rw [LayoutItem.read, takeName_append weekdayNames_nodup (by decide) d.weekdayNames_getElem?]
  rfl

theorem read_monthName (d : Date) (fields : Fields) (rest : List Char) :
    LayoutItem.monthName.read fields (d.monthName.toList ++ rest) =
      some ({ fields with month := d.month }, rest) := by
  rw [LayoutItem.read, takeName_append monthNames_nodup (by decide) d.monthNames_getElem?]
  show some ({ fields with month := d.month - 1 + 1 }, rest) = _
  rw [Nat.sub_add_cancel d.month_pos]

theorem read_day {n : Nat} (h : n < 100) (fields : Fields) (rest : List Char) :
    LayoutItem.day.read fields ((padded 2 n).toList ++ rest) =
      some ({ fields with day := n }, rest) := by
  rw [LayoutItem.read, takeNumber_padded (by decide) h]
  rfl

theorem read_hour {n : Nat} (h : n ≤ 23) (fields : Fields) (rest : List Char) :
    LayoutItem.hour.read fields ((padded 2 n).toList ++ rest) =
      some ({ fields with hour := n }, rest) := by
  rw [LayoutItem.read, takeNumber_padded (by decide) (show n < 100 by omega)]
  exact if_pos h

theorem read_minute {n : Nat} (h : n ≤ 59) (fields : Fields) (rest : List Char) :
    LayoutItem.minute.read fields ((padded 2 n).toList ++ rest) =
      some ({ fields with minute := n }, rest) := by
  rw [LayoutItem.read, takeNumber_padded (by decide) (show n < 100 by omega)]
  exact if_pos h

theorem read_second {n : Nat} (h : n ≤ 60) (fields : Fields) (rest : List Char) :
    LayoutItem.second.read fields ((padded 2 n).toList ++ rest) =
      some ({ fields with second := n }, rest) := by
  rw [LayoutItem.read, takeNumber_padded (by decide) (show n < 100 by omega)]
  exact if_pos h

theorem read_offset (o : Offset) (fields : Fields) (rest : List Char) :
    LayoutItem.offset.read fields (o.text ++ rest) =
      some ({ fields with offset := o.seconds }, rest) := by
  have hDrop : dropBlanks (o.text ++ rest) = o.text ++ rest := by
    have hSign : isBlank o.sign = false := by
      rw [Offset.sign]
      split <;> rfl
    rw [dropBlanks, Offset.text, List.cons_append, List.dropWhile_cons_of_neg (by simp [hSign])]
  rw [LayoutItem.read, hDrop, takeOffset_text]
  rfl

theorem read_year {n : Nat} (h : n < 10000) (fields : Fields) :
    LayoutItem.year.read fields (padded 4 n).toList = some ({ fields with year := n }, []) := by
  have hYear := takeYear_padded h []
  rw [List.append_nil] at hYear
  rw [LayoutItem.read, hYear]
  rfl

theorem read_literal (c : Char) (fields : Fields) (rest : List Char) :
    (LayoutItem.literal c).read fields (c :: rest) = some (fields, rest) := if_pos rfl

namespace Instant

variable (t : Instant) (o : Offset)

theorem localTime_lt : t.localTime o < 86400 := by
  rw [localTime]
  omega

/-- The fields that a layout reads from an instant as it is written at an offset. -/
def localFields : Fields where
  year := (t.localDate o).year.toNat
  month := (t.localDate o).month
  day := (t.localDate o).day
  weekday := some (t.localDate o).weekday
  hour := t.localTime o / 3600
  minute := t.localTime o / 60 % 60
  second := t.localTime o % 60
  offset := o.seconds

theorem read_archiveLayout (hYear : (t.localDate o).year < 10000) :
    Layout.read archiveLayout {} (t.localText o) = some (t.localFields o) := by
  have hTime := t.localTime_lt o
  have hDay := (t.localDate o).day_le.trans (daysInMonth_le _ _)
  rw [archiveLayout, localText]
  rw [Layout.read_cons (read_weekdayName _ _ _),
    Layout.read_cons (((t.localDate o).visible_monthName.append _).read_blank _),
    Layout.read_cons (read_monthName _ _ _),
    Layout.read_cons (((visible_padded _ _).append _).read_blank _),
    Layout.read_cons (read_day (by omega) _ _),
    Layout.read_cons (((visible_padded _ _).append _).read_blank _),
    Layout.read_cons (read_hour (by omega) _ _),
    Layout.read_cons (read_literal _ _ _),
    Layout.read_cons (read_minute (by omega) _ _),
    Layout.read_cons (read_literal _ _ _),
    Layout.read_cons (read_second (by omega) _ _),
    Layout.read_cons ((o.visible_text.append _).read_blank _),
    Layout.read_cons (read_offset _ _ _),
    Layout.read_cons ((visible_padded _ _).read_blank _),
    Layout.read_cons (read_year (by omega) _)]
  rfl

theorem date?_localFields (hFirst : 0 ≤ (t.localDate o).year)
    (hLast : (t.localDate o).year < 10000) : (t.localFields o).date? = some (t.localDate o) := by
  have hYear : (t.localFields o).year = (t.localDate o).year := Int.toNat_of_nonneg hFirst
  have hRange : Fields.yearInRange (t.localFields o).year = true := by
    rw [hYear]
    simp only [Fields.yearInRange, Bool.and_eq_true, decide_eq_true_eq]
    omega
  have hDate : Date.ofParts? (t.localFields o).year (t.localFields o).month
      (t.localFields o).day = some (t.localDate o) :=
    Date.ofParts?_eq_some_iff.mpr ⟨hYear.symm, rfl, rfl⟩
  unfold Fields.date?
  rw [hDate]
  exact if_pos ⟨hRange, by simp [localFields]⟩

theorem ofParts?_eq_some_iff {seconds : Int} {nanos : Nat} {t : Instant} :
    ofParts? seconds nanos = some t ↔ t.seconds = seconds ∧ t.nanos = nanos := by
  unfold ofParts?
  constructor
  · intro h
    split at h
    · cases h
      exact ⟨rfl, rfl⟩
    · cases h
  · rintro ⟨rfl, rfl⟩
    exact dif_pos ⟨⟨t.first_le, t.le_last⟩, t.nanos_lt, t.leap⟩

/-- Clock and calendar at an offset, and the offset, give back the instant. -/
theorem instant?_localFields (hFirst : 0 ≤ (t.localDate o).year)
    (hLast : (t.localDate o).year < 10000) (hWhole : t.nanos = 0) :
    (t.localFields o).instant? = some t := by
  have hTime := t.localTime_lt o
  have hNumber : (t.localDate o).number = t.localSeconds o / 86400 := Date.number_ofNumber _
  have hRest : (t.localTime o : Int) = t.localSeconds o % 86400 := by
    rw [localTime]
    omega
  have hClock : 3600 * (t.localTime o / 3600) + 60 * (t.localTime o / 60 % 60) +
      min (t.localTime o % 60) 59 = t.localTime o := by omega
  have hSeconds : 86400 * (t.localDate o).number + (t.localTime o : Int) - o.seconds =
      t.seconds := by
    rw [hNumber, hRest, Int.mul_ediv_add_emod, localSeconds, Int.add_sub_cancel]
  have hMinute : t.localTime o % 60 ≠ 60 := by omega
  unfold Fields.instant?
  rw [t.date?_localFields o hFirst hLast]
  show ofParts? (86400 * (t.localDate o).number + (3600 * (t.localTime o / 3600) +
    60 * (t.localTime o / 60 % 60) + min (t.localTime o % 60) 59 : Nat) - o.seconds)
    (0 + if t.localTime o % 60 = 60 then 1000000000 else 0) = some t
  rw [hClock, hSeconds, if_neg hMinute, Nat.add_zero, ← hWhole]
  exact ofParts?_eq_some_iff.mpr ⟨rfl, rfl⟩

end Instant

end PostSieve.Calendar

namespace PostSieve.Archive

/-- A creation time is the instant that it was written for, at whatever offset. -/
theorem Entry.readInstant?_localText {t : Calendar.Instant} {o : Calendar.Offset}
    (hWhole : t.nanos = 0) (hFirst : 0 ≤ (t.localDate o).year)
    (hLast : (t.localDate o).year < 10000) : Entry.readInstant? (t.localText o) = some t := by
  rw [Entry.readInstant?, t.read_archiveLayout o hLast]
  exact t.instant?_localFields o hFirst hLast hWhole

example : (Calendar.Instant.ofSecond 1539202764 (by decide) (by decide)).localText
    { west := true, minutes := 120, minutes_lt := by decide } =
      "Wed Oct 10 18:19:24 -0200 2018".toList := by decide

end PostSieve.Archive
