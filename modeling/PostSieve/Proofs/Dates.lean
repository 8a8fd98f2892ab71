import PostSieve.Calendar.Layout
import PostSieve.Proofs.Words

/-! Dates in rules: which day a literal names, and that reading it finds the midnight of that
day. -/

namespace PostSieve.Calendar

/-- Whether a literal such as `10-May-2020` names a day: two digits for its number, the short name
of its month in any letter case, and four digits for its year. -/
def NamesDate (literal : String) (d : Date) : Prop :=
  ∃ d₁ d₂ m₁ m₂ m₃ y₁ y₂ y₃ y₄ name,
    literal.toList = [d₁, d₂, '-', m₁, m₂, m₃, '-', y₁, y₂, y₃, y₄] ∧
      (∀ c ∈ [d₁, d₂, y₁, y₂, y₃, y₄], c.isDigit = true) ∧
      d.day = decimalValue [d₁, d₂] ∧
      monthNames[d.month - 1]? = some name ∧
      [m₁, m₂, m₃].map Char.toLower = name.toList.map Char.toLower ∧
      d.year = decimalValue [y₁, y₂, y₃, y₄]

theorem not_isBlank_of_isDigit {c : Char} (h : c.isDigit = true) : isBlank c = false := by
  refine Bool.eq_false_iff.mpr fun hBlank => ?_
  have := Rule.isBlank_toNat hBlank
  rw [Rule.isDigit_iff] at h
  omega

/-- Digits of the full width are read whole. -/
theorem takeNumber_digits {digits rest : List Char} (hNe : digits ≠ [])
    (hDigits : ∀ c ∈ digits, c.isDigit = true) :
    takeNumber digits.length (digits ++ rest) = some (decimalValue digits, rest) := by
  obtain ⟨c, tail, rfl⟩ := List.exists_cons_of_ne_nil hNe
  have hBlank := not_isBlank_of_isDigit (hDigits c List.mem_cons_self)
  have hDrop : dropBlanks (c :: tail ++ rest) = c :: tail ++ rest := by
    rw [dropBlanks, List.cons_append, List.dropWhile_cons_of_neg (by simp [hBlank])]
  simp only [takeNumber]
  rw [hDrop, List.take_left, List.takeWhile_eq_self_iff.mpr hDigits, if_neg hNe, List.drop_left]

theorem takeYear_digits {digits : List Char} (hLength : digits.length = 4)
    (hDigits : ∀ c ∈ digits, c.isDigit = true) (rest : List Char) :
    takeYear (digits ++ rest) = some ((decimalValue digits : Int), rest) := by
  obtain ⟨c, tail, rfl⟩ := List.exists_cons_of_length_eq_add_one hLength
  have hc := hDigits c List.mem_cons_self
  have hDrop : dropBlanks (c :: tail ++ rest) = c :: tail ++ rest := by
    rw [List.cons_append, dropBlanks,
      List.dropWhile_cons_of_neg (by simp [not_isBlank_of_isDigit hc])]
  have hRead := @takeNumber_digits (c :: tail) rest (List.cons_ne_nil c tail) hDigits
  rw [hLength] at hRead
  unfold takeYear
  rw [hDrop]
  split
  · rename_i hEq
    cases hEq
    exact absurd hc (by decide)
  · rename_i hEq
    cases hEq
    exact absurd hc (by decide)
  · rw [hRead]
    rfl

theorem toList_toLower (text : String) : text.toLower.toList = text.toList.map Char.toLower :=
  String.toList_map

/-- The months have names of their own, whatever the letter case. -/
theorem monthNames_nodup :
    (monthNames.map fun name => name.toList.map Char.toLower).Nodup := by decide

theorem findIdx?_names {names : List String}
    (hNames : (names.map fun name => name.toList.map Char.toLower).Nodup) {letters : List Char}
    {index : Nat} : names.findIdx? (·.toLower == String.ofList letters) = some index ↔
      ∃ name, names[index]? = some name ∧ letters = name.toList.map Char.toLower := by
  have hBeq (name : String) : (name.toLower == String.ofList letters) = true ↔
      letters = name.toList.map Char.toLower := by
    rw [beq_iff_eq, ← toList_toLower, ← String.toList_inj, String.toList_ofList, eq_comm]
  rw [List.findIdx?_eq_some_iff_getElem]
  constructor
  · rintro ⟨hIndex, hName, -⟩
    exact ⟨_, List.getElem?_eq_getElem hIndex, (hBeq _).mp hName⟩
  · rintro ⟨name, hName, hLetters⟩
    obtain ⟨hIndex, rfl⟩ := List.getElem?_eq_some_iff.mp hName
    refine ⟨hIndex, (hBeq _).mpr hLetters, fun j hj hEarlier => ?_⟩
    -- An earlier entry of the same name would be the same entry.
    have hSame : j = index := by
      have hj' : j < (names.map fun name => name.toList.map Char.toLower).length := by
        rw [List.length_map]
        omega
      apply (List.getElem?_inj hj' hNames).mp
      rw [List.getElem?_map, List.getElem?_map, List.getElem?_eq_getElem hIndex,
        List.getElem?_eq_getElem (hj.trans hIndex), Option.map_some, Option.map_some,
        ← hLetters, ← (hBeq _).mp hEarlier]
    omega

theorem read_dateLayout {d₁ d₂ m₁ m₂ m₃ y₁ y₂ y₃ y₄ : Char}
    (hDigits : ∀ c ∈ [d₁, d₂, y₁, y₂, y₃, y₄], c.isDigit = true) :
    Layout.read dateLayout {} [d₁, d₂, '-', m₁, m₂, m₃, '-', y₁, y₂, y₃, y₄] =
      (monthNames.findIdx? (·.toLower == String.ofList ([m₁, m₂, m₃].map Char.toLower))).map
        fun index => { day := decimalValue [d₁, d₂], month := index + 1,
                       year := decimalValue [y₁, y₂, y₃, y₄] } := by
  have hDay := @takeNumber_digits [d₁, d₂] ['-', m₁, m₂, m₃, '-', y₁, y₂, y₃, y₄]
    (List.cons_ne_nil _ _) fun c hc => hDigits c (List.mem_append_left [y₁, y₂, y₃, y₄] hc)
  have hYear : takeYear [y₁, y₂, y₃, y₄] = some ((decimalValue [y₁, y₂, y₃, y₄] : Int), []) :=
    takeYear_digits rfl (fun c hc => hDigits c (List.mem_append_right [d₁, d₂] hc)) []
  have hDay : takeNumber 2 [d₁, d₂, '-', m₁, m₂, m₃, '-', y₁, y₂, y₃, y₄] =
    some (decimalValue [d₁, d₂], ['-', m₁, m₂, m₃, '-', y₁, y₂, y₃, y₄]) := hDay
  have hName : takeName monthNames [m₁, m₂, m₃, '-', y₁, y₂, y₃, y₄] =
      (monthNames.findIdx? (·.toLower == String.ofList ([m₁, m₂, m₃].map Char.toLower))).map
        (·, ['-', y₁, y₂, y₃, y₄]) := by
    rw [Option.map_eq_bind]
    rfl
  cases hIndex : monthNames.findIdx?
    (·.toLower == String.ofList ([m₁, m₂, m₃].map Char.toLower)) with
  | none =>
    rw [hIndex] at hName
    simp [dateLayout, Layout.read, LayoutItem.read, hDay, hName]
  | some index =>
    rw [hIndex] at hName
    simp [dateLayout, Layout.read, LayoutItem.read, hDay, hName, hYear]

/-! ### The midnight of a day -/

theorem Date.ofParts?_eq_some_iff {year : Int} {month day : Nat} {d : Date} :
    ofParts? year month day = some d ↔ d.year = year ∧ d.month = month ∧ d.day = day := by
  obtain ⟨year', month', day', hPos, hLe, hDayPos, hDayLe⟩ := d
  unfold ofParts?
  constructor
  · intro h
    split at h
    · cases h
      exact ⟨rfl, rfl, rfl⟩
    · cases h
  · rintro ⟨rfl, rfl, rfl⟩
    exact dif_pos ⟨⟨hPos, hLe⟩, hDayPos, hDayLe⟩

theorem digitValue_lt {c : Char} (h : c.isDigit = true) : digitValue c < 10 := by
  have hBounds := Rule.isDigit_iff.mp h
  have hZero : '0'.toNat = 48 := rfl
  rw [digitValue]
  omega

theorem decimalValue_lt {y₁ y₂ y₃ y₄ : Char}
    (h : ∀ c ∈ [y₁, y₂, y₃, y₄], c.isDigit = true) : decimalValue [y₁, y₂, y₃, y₄] < 10000 := by
  simp only [List.forall_mem_cons] at h
  have := digitValue_lt h.1
  have := digitValue_lt h.2.1
  have := digitValue_lt h.2.2.1
  have := digitValue_lt h.2.2.2.1
  simp only [decimalValue, List.foldl_cons, List.foldl_nil]
  omega

theorem daysBeforeYear_lt {year year' : Int} (h : year < year') :
    daysBeforeYear year < daysBeforeYear year' := by
  simp only [daysBeforeYear]
  omega

theorem daysBeforeYear_le {year year' : Int} (h : year ≤ year') :
    daysBeforeYear year ≤ daysBeforeYear year' := by
  rcases Int.lt_or_eq_of_le h with hLt | rfl
  · exact Int.le_of_lt (daysBeforeYear_lt hLt)
  · exact Int.le_refl _

theorem total_take_le (lengths : List Nat) (n : Nat) : total (lengths.take n) ≤ total lengths := by
  induction lengths generalizing n with
  | nil => rw [List.take_nil]
  | cons length lengths ih =>
    cases n with
    | zero => exact Nat.zero_le _
    | succ n => exact Nat.add_le_add_left (ih n) length

theorem total_monthLengths_le (year : Int) : total (monthLengths year) ≤ 366 := by
  simp only [monthLengths, total]
  split <;> omega

theorem daysInMonth_le (year : Int) (month : Nat) : daysInMonth year month ≤ 31 := by
  have hAll : ∀ length ∈ monthLengths year, length ≤ 31 := by
    simp only [monthLengths, List.forall_mem_cons]
    split <;> simp
  rw [daysInMonth]
  cases hMonth : (monthLengths year)[month - 1]? with
  | none => exact Nat.zero_le _
  | some length => exact hAll length (List.mem_of_getElem? hMonth)

/-- The days of years of up to four digits begin in range. -/
theorem exists_midnight {d : Date} (hFirst : 0 ≤ d.year) (hLast : d.year < 10000) :
    ∃ t, Instant.midnight? d = some t := by
  have hMonths : daysBeforeMonth d.year d.month ≤ 366 :=
    (total_take_le _ _).trans (total_monthLengths_le d.year)
  have hDays := d.day_le.trans (daysInMonth_le d.year d.month)
  have hPos := d.day_pos
  refine ⟨_, dif_pos ⟨?_, by decide, fun h => absurd h (by decide)⟩⟩
  rw [Date.number, daysBeforeYear, firstSecond, lastSecond]
  omega

theorem NamesDate.exists_midnight {literal : String} {d : Date} (h : NamesDate literal d) :
    ∃ t, Instant.midnight? d = some t := by
  obtain ⟨d₁, d₂, m₁, m₂, m₃, y₁, y₂, y₃, y₄, name, -, hDigits, -, -, -, hYear⟩ := h
  have hLt : decimalValue [y₁, y₂, y₃, y₄] < 10000 :=
    decimalValue_lt fun c hc => hDigits c (List.mem_append_right [d₁, d₂] hc)
  apply Calendar.exists_midnight <;> omega

theorem date?_of_year {fields : Fields} (hFirst : 0 ≤ fields.year) (hLast : fields.year < 10000)
    (hWeekday : fields.weekday = none) :
    fields.date? = Date.ofParts? fields.year fields.month fields.day := by
  have hYear : Fields.yearInRange fields.year = true := by
    simp only [Fields.yearInRange, Bool.and_eq_true, decide_eq_true_eq]
    omega
  unfold Fields.date?
  cases Date.ofParts? fields.year fields.month fields.day with
  | none => rfl
  | some d => simp [hYear, hWeekday]

/-- A literal that looks like a date is read exactly if it names a day, as its midnight. -/
theorem readDate_eq_ok_iff {literal : String} (h : Rule.TokenKind.date.Language literal.toList)
    {t : Instant} : readDate literal = .ok t ↔
      ∃ d, NamesDate literal d ∧ Instant.midnight? d = some t := by
  obtain ⟨d₁, d₂, m₁, m₂, m₃, y₁, y₂, y₃, y₄, hText, hDigits, -⟩ :=
    Rule.TokenKind.language_date.mp h
  have hYear : decimalValue [y₁, y₂, y₃, y₄] < 10000 :=
    decimalValue_lt fun c hc => hDigits c (List.mem_append_right [d₁, d₂] hc)
  have hOk : readDate literal = .ok t ↔
      (Layout.read dateLayout {} literal.toList >>= Fields.date? >>= Instant.midnight?) =
        some t := by
    unfold readDate
    cases Layout.read dateLayout {} literal.toList >>= Fields.date? >>= Instant.midnight? <;> simp
  rw [hOk, hText, read_dateLayout hDigits]
  constructor
  · intro hRead
    obtain ⟨d, hDate, hMidnight⟩ := Option.bind_eq_some_iff.mp hRead
    obtain ⟨fields, hFields, hDate⟩ := Option.bind_eq_some_iff.mp hDate
    obtain ⟨index, hIndex, rfl⟩ := Option.map_eq_some_iff.mp hFields
    obtain ⟨name, hName, hLetters⟩ := (findIdx?_names monthNames_nodup).mp hIndex
    rw [date?_of_year (Int.natCast_nonneg _) (by simp only; omega) rfl, Date.ofParts?_eq_some_iff]
      at hDate
    obtain ⟨hYearEq, hMonth, hDay⟩ := hDate
    refine ⟨d, ⟨d₁, d₂, m₁, m₂, m₃, y₁, y₂, y₃, y₄, name, hText, hDigits, hDay, ?_, hLetters,
      hYearEq⟩, hMidnight⟩
    rw [hMonth, Nat.add_sub_cancel]
    exact hName
  · rintro ⟨d, ⟨d₁', d₂', m₁', m₂', m₃', y₁', y₂', y₃', y₄', name, hText', -, hDay, hName,
      hLetters, hYearEq⟩, hMidnight⟩
    cases hText.symm.trans hText'
    have hIndex := (findIdx?_names monthNames_nodup).mpr ⟨name, hName, hLetters⟩
    refine Option.bind_eq_some_iff.mpr ⟨d, Option.bind_eq_some_iff.mpr ?_, hMidnight⟩
    refine ⟨_, Option.map_eq_some_iff.mpr ⟨_, hIndex, rfl⟩, ?_⟩
    rw [date?_of_year (Int.natCast_nonneg _) (by simp only; omega) rfl, Date.ofParts?_eq_some_iff]
    exact ⟨hYearEq, (Nat.sub_add_cancel d.month_pos).symm, hDay⟩

end PostSieve.Calendar
