import PostSieve.Proofs.Decimals
import PostSieve.Proofs.GrammarErrors
import PostSieve.Proofs.Tiling

/-! The texts of ages: they are the age tokens of a rule, they are read as the numbers that they
write, and what is written for an age is one of them. -/

namespace PostSieve.Rule

/-- Whether a text is one token of a kind, with nothing around it. -/
def TokenKind.IsWhole (kind : TokenKind) (text : String) : Prop :=
  TokenStream.ofText text = ⟨[⟨kind, text, 0, text.utf8ByteSize⟩], .endOfText text.utf8ByteSize⟩

theorem TokenKind.isWhole_iff {kind : TokenKind} {text : String} :
    kind.IsWhole text ↔ kind.Language text.toList := by
  constructor
  · intro h
    have hLexical := @isLexical_of_mem_scanFrom 0 text.toList
    rw [← TokenStream.ofText, h] at hLexical
    exact hLexical _ (List.mem_singleton_self _)
  · intro h
    have hScan := @scan_append kind [] text.toList [] 0 (List.forall_mem_nil _) h (by simp)
    rw [List.nil_append, List.append_nil, String.ofList_toList, byteLength_toList] at hScan
    have hEnd : scan scanned text.utf8ByteSize [] = .stopped (.endOfText text.utf8ByteSize) :=
      scan_eq_endOfText_iff.mpr ⟨List.forall_mem_nil _, rfl⟩
    have hStop : Token.stop ⟨kind, text, 0, text.utf8ByteSize⟩ = text.utf8ByteSize := Nat.zero_add _
    rw [IsWhole, TokenStream.ofText, TokenStream.scanFrom_token hScan]
    show TokenStream.mk (_ :: (TokenStream.scanFrom _ (Token.stop ⟨_, _, 0, _⟩) _).tokens)
      (TokenStream.scanFrom _ (Token.stop ⟨_, _, 0, _⟩) _).ending = _
    rw [hStop, TokenStream.scanFrom_stopped hEnd]
    rfl

end PostSieve.Rule

namespace PostSieve.Calendar

/-! ### Groups of digits -/

/-- The group that digits make with a unit behind them; no digits make none. -/
def group (unit : Char) : List Char → List Char
  | [] => []
  | digit :: digits => digit :: (digits ++ [unit])

variable {unit unit' : Char} {digits rest : List Char}

theorem group_cons_append (unit digit : Char) (digits rest : List Char) :
    group unit (digit :: digits) ++ rest = digit :: digits ++ unit :: rest := by
  simp [group]

theorem group_eq_nil_iff : group unit digits = [] ↔ digits = [] := by
  cases digits <;> simp [group]

theorem isUnitOrNil_iff {text : List Char} : Rule.IsUnitOrNil unit text ↔
    ∃ digits, (∀ c ∈ digits, c.isDigit = true) ∧ text = group unit digits := by
  constructor
  · rintro (rfl | ⟨_ | ⟨digit, digits⟩, hNe, hDigits, rfl⟩)
    · exact ⟨[], List.forall_mem_nil _, rfl⟩
    · exact absurd rfl hNe
    · exact ⟨digit :: digits, hDigits, rfl⟩
  · rintro ⟨_ | ⟨digit, digits⟩, hDigits, rfl⟩
    · exact .inl rfl
    · exact .inr ⟨digit :: digits, List.cons_ne_nil _ _, hDigits, rfl⟩

/-- Digits are taken with the character behind them if that is the unit, and else not at all. -/
theorem takeUnit_append (hNe : digits ≠ []) (hDigits : ∀ c ∈ digits, c.isDigit = true)
    (hUnit : unit'.isDigit = false) : takeUnit unit (digits ++ unit' :: rest) =
      if unit' = unit then (digits, rest) else ([], digits ++ unit' :: rest) := by
  obtain ⟨digit, more, rfl⟩ := List.exists_cons_of_ne_nil hNe
  have hRest : ((digit :: more) ++ unit' :: rest).dropWhile Char.isDigit = unit' :: rest := by
    rw [List.dropWhile_append_of_pos hDigits, List.dropWhile_cons_of_neg (by simp [hUnit])]
  simp only [takeUnit, Rule.takeWhile_run hDigits hUnit rest, hRest]

theorem takeUnit_group (unit : Char) (hDigits : ∀ c ∈ digits, c.isDigit = true)
    (hUnit : unit.isDigit = false) (hRest : takeUnit unit rest = ([], rest)) :
    takeUnit unit (group unit digits ++ rest) = (digits, rest) := by
  cases digits with
  | nil => exact hRest
  | cons digit digits =>
    have hTake := @takeUnit_append unit unit _ rest (List.cons_ne_nil _ _) hDigits hUnit
    rwa [if_pos rfl, ← group_cons_append] at hTake

theorem takeUnit_group_of_ne (unit' : Char) (hDigits : ∀ c ∈ digits, c.isDigit = true)
    (hUnit : unit'.isDigit = false) (hNe : unit' ≠ unit)
    (hRest : takeUnit unit rest = ([], rest)) :
    takeUnit unit (group unit' digits ++ rest) = ([], group unit' digits ++ rest) := by
  cases digits with
  | nil => exact hRest
  | cons digit digits =>
    have hTake := @takeUnit_append unit unit' _ rest (List.cons_ne_nil _ _) hDigits hUnit
    rwa [if_neg hNe, ← group_cons_append] at hTake

theorem takeUnit_spec (unit : Char) (text : List Char) :
    text = group unit (takeUnit unit text).1 ++ (takeUnit unit text).2 ∧
      ∀ c ∈ (takeUnit unit text).1, c.isDigit = true := by
  have hText := List.takeWhile_append_dropWhile (p := Char.isDigit) (l := text)
  have hDigits : ∀ c ∈ text.takeWhile Char.isDigit, c.isDigit = true :=
    fun c hc => List.mem_takeWhile_imp hc
  simp only [takeUnit]
  split
  · rename_i digit digits c rest hTaken hLeft
    rw [hTaken] at hText hDigits ⊢
    rw [hLeft] at hText
    split
    · rename_i hUnit
      subst hUnit
      refine ⟨?_, hDigits⟩
      rw [group_cons_append]
      exact hText.symm
    · exact ⟨rfl, List.forall_mem_nil _⟩
  · exact ⟨rfl, List.forall_mem_nil _⟩

/-! ### Reading an age -/

theorem readCount?_eq_some_iff (hDigits : ∀ c ∈ digits, c.isDigit = true) {count : UInt32} :
    Age.readCount? digits = some count ↔ count.toNat = decimalValue digits := by
  unfold Age.readCount?
  split
  · rename_i hNil
    subst hNil
    rw [Option.some_inj, ← UInt32.toNat_inj]
    exact eq_comm
  · rename_i hNe
    rw [readWord32?_eq_some]
    exact ⟨fun h => h.2.2.symm, fun h => ⟨hNe, hDigits, h.symm⟩⟩

namespace Age

/-- Whether a text is the groups of these years, months and days, of which those without digits are
left out, but not all. -/
structure Groups (literal : String) (years months days : List Char) : Prop where
  text_eq : literal.toList = group 'y' years ++ (group 'm' months ++ group 'd' days)
  years_digits : ∀ c ∈ years, c.isDigit = true
  months_digits : ∀ c ∈ months, c.isDigit = true
  days_digits : ∀ c ∈ days, c.isDigit = true
  ne_nil : ¬ (years = [] ∧ months = [] ∧ days = [])

variable {literal : String} {years months days : List Char} {age : Age}

theorem language_iff : Rule.TokenKind.age.Language literal.toList ↔
    ∃ years months days, Groups literal years months days := by
  constructor
  · rintro ⟨hNe, _, _, _, hText, hYear, hMonth, hDay⟩
    obtain ⟨years, hYears, rfl⟩ := isUnitOrNil_iff.mp hYear
    obtain ⟨months, hMonths, rfl⟩ := isUnitOrNil_iff.mp hMonth
    obtain ⟨days, hDays, rfl⟩ := isUnitOrNil_iff.mp hDay
    refine ⟨years, months, days, hText, hYears, hMonths, hDays, ?_⟩
    rintro ⟨rfl, rfl, rfl⟩
    exact hNe hText
  · rintro ⟨years, months, days, hText, hYears, hMonths, hDays, hNe⟩
    refine ⟨fun hNil => hNe ?_, _, _, _, hText, isUnitOrNil_iff.mpr ⟨years, hYears, rfl⟩,
      isUnitOrNil_iff.mpr ⟨months, hMonths, rfl⟩, isUnitOrNil_iff.mpr ⟨days, hDays, rfl⟩⟩
    rw [hNil] at hText
    simpa [group_eq_nil_iff] using hText.symm

theorem Groups.read_eq (h : Groups literal years months days) : read literal =
    match readCount? years, readCount? months, readCount? days with
    | some years, some months, some days => .ok { years, months, days }
    | _, _, _ => .error (.outOfRange literal) := by
  have hNil (unit : Char) : takeUnit unit [] = ([], []) := rfl
  -- A unit that is left out is not found in the groups of the units behind it.
  have hYears := takeUnit_group 'y' h.years_digits rfl <|
    takeUnit_group_of_ne 'm' h.months_digits rfl (by decide) <|
      takeUnit_group_of_ne 'd' h.days_digits rfl (by decide) (hNil 'y')
  have hMonths := takeUnit_group 'm' h.months_digits rfl <|
    takeUnit_group_of_ne 'd' h.days_digits rfl (by decide) (hNil 'm')
  have hDays := takeUnit_group 'd' h.days_digits rfl (hNil 'd')
  rw [List.append_nil] at hYears hMonths hDays
  simp only [read, h.text_eq, hYears, hMonths, hDays]
  exact if_neg (by simpa using h.ne_nil)

theorem groups_or_malformed (literal : String) :
    (∃ years months days, Groups literal years months days) ∨
      read literal = .error (.malformed literal) := by
  obtain ⟨hText, hYears⟩ := takeUnit_spec 'y' literal.toList
  obtain ⟨hText', hMonths⟩ := takeUnit_spec 'm' (takeUnit 'y' literal.toList).2
  obtain ⟨hText'', hDays⟩ := takeUnit_spec 'd' (takeUnit 'm' (takeUnit 'y' literal.toList).2).2
  simp only [read]
  split
  · exact .inr rfl
  · rename_i hWhole
    rw [not_or, not_not] at hWhole
    rw [hWhole.1, List.append_nil] at hText''
    rw [hText''] at hText'
    rw [hText'] at hText
    exact .inl ⟨_, _, _, hText, hYears, hMonths, hDays, hWhole.2⟩

namespace Groups

variable (h : Groups literal years months days)
include h

theorem read_eq_ok_iff : read literal = .ok age ↔
    age.years.toNat = decimalValue years ∧ age.months.toNat = decimalValue months ∧
      age.days.toNat = decimalValue days := by
  rw [← readCount?_eq_some_iff h.years_digits, ← readCount?_eq_some_iff h.months_digits,
    ← readCount?_eq_some_iff h.days_digits, h.read_eq]
  cases age
  cases readCount? years <;> cases readCount? months <;> cases readCount? days <;> simp

theorem exists_read_iff : (∃ age, read literal = .ok age) ↔
    decimalValue years < UInt32.size ∧ decimalValue months < UInt32.size ∧
      decimalValue days < UInt32.size := by
  simp only [h.read_eq_ok_iff]
  constructor
  · rintro ⟨age, hYears, hMonths, hDays⟩
    exact ⟨hYears ▸ age.years.toNat_lt, hMonths ▸ age.months.toNat_lt, hDays ▸ age.days.toNat_lt⟩
  · rintro ⟨hYears, hMonths, hDays⟩
    exact ⟨⟨.ofNat _, .ofNat _, .ofNat _⟩, UInt32.toNat_ofNat_of_lt' hYears,
      UInt32.toNat_ofNat_of_lt' hMonths, UInt32.toNat_ofNat_of_lt' hDays⟩

theorem read_ok_or :
    (∃ age, read literal = .ok age) ∨ read literal = .error (.outOfRange literal) := by
  rw [h.read_eq]
  split
  · exact .inl ⟨_, rfl⟩
  · exact .inr rfl

theorem read_ne_malformed (other : String) : read literal ≠ .error (.malformed other) := by
  rcases h.read_ok_or with ⟨age, hRead⟩ | hRead <;> rw [hRead] <;> nofun

end Groups

/-- Counting an age back finds no fault with its text. -/
theorem read_of_instantBefore {now : Instant} {other : String}
    (h : instantBefore literal now = .error (.malformed other)) :
    read literal = .error (.malformed other) := by
  rcases bind_eq_error_iff.mp h with hRead | ⟨age, -, hBefore⟩
  · exact hRead
  · unfold before at hBefore
    split at hBefore <;> cases hBefore

theorem language_of_read (h : read literal = .ok age) :
    Rule.TokenKind.age.Language literal.toList := by
  rw [language_iff]
  exact (groups_or_malformed literal).resolve_right fun hError => by cases h.symm.trans hError

/-! ### Writing an age -/

/-- The digits of a count that is not zero. -/
def countDigits (count : UInt32) : List Char :=
  if count = 0 then [] else (toString count.toNat).toList

theorem group_toString (unit : Char) (n : Nat) :
    group unit (toString n).toList = (toString n).toList ++ [unit] := by
  obtain ⟨digit, digits, hDigits⟩ := List.exists_cons_of_ne_nil (toList_toString_ne_nil n)
  rw [hDigits]
  rfl

theorem toList_unitText (count : UInt32) (unit : Char) :
    (unitText count unit).toList = group unit (countDigits count) := by
  unfold unitText countDigits
  split
  · rfl
  · rw [String.toList_push, group_toString]

theorem isDigit_of_mem_countDigits {count : UInt32} {c : Char} (h : c ∈ countDigits count) :
    c.isDigit = true := by
  unfold countDigits at h
  split at h
  · cases h
  · exact isDigit_of_mem_toString h

theorem decimalValue_countDigits (count : UInt32) :
    decimalValue (countDigits count) = count.toNat := by
  unfold countDigits
  split
  · rename_i hZero
    rw [hZero]
    rfl
  · exact decimalValue_toString _

theorem countDigits_eq_nil_iff {count : UInt32} : countDigits count = [] ↔ count = 0 := by
  unfold countDigits
  split
  · exact iff_of_true rfl ‹_›
  · exact iff_of_false (toList_toString_ne_nil _) ‹_›

/-- An age is written as groups that have its numbers. -/
theorem exists_groups_text (age : Age) : ∃ years months days,
    Groups age.text years months days ∧ age.years.toNat = decimalValue years ∧
      age.months.toNat = decimalValue months ∧ age.days.toNat = decimalValue days := by
  by_cases hZero : age.years = 0 ∧ age.months = 0 ∧ age.days = 0
  · obtain ⟨years, months, days⟩ := age
    obtain ⟨rfl, rfl, rfl⟩ := hZero
    exact ⟨[], [], ['0'], ⟨rfl, List.forall_mem_nil _, List.forall_mem_nil _,
      List.forall_mem_singleton.mpr rfl, by decide⟩, rfl, rfl, rfl⟩
  · refine ⟨countDigits age.years, countDigits age.months, countDigits age.days,
      ⟨?_, fun _ => isDigit_of_mem_countDigits, fun _ => isDigit_of_mem_countDigits,
        fun _ => isDigit_of_mem_countDigits, ?_⟩, (decimalValue_countDigits _).symm,
      (decimalValue_countDigits _).symm, (decimalValue_countDigits _).symm⟩
    · rw [text, if_neg hZero, String.toList_append, String.toList_append, toList_unitText,
        toList_unitText, toList_unitText, List.append_assoc]
    · simpa only [countDigits_eq_nil_iff] using hZero

end Age

end PostSieve.Calendar

namespace PostSieve.Rule

open Calendar (Instant Age AgeError)

/-! ### Ages in rules -/

theorem Field.criteria_eq_badAge {field : Field} {now : Instant} {op : TokenKind} {value : String}
    {e : AgeError} (h : field.criteria now op value = .error (.badAge e)) :
    field = .age ∧ Age.instantBefore value now = .error e := by
  cases field with
  | age =>
    rw [criteria, bind_eq_error_iff] at h
    rcases h with hAge | ⟨_, -, hTests⟩
    · obtain ⟨_, hAge, hError⟩ := mapError_eq_error_iff.mp hAge
      cases hError
      exact ⟨rfl, hAge⟩
    · cases hTests
  | created =>
    rw [criteria, bind_eq_error_iff] at h
    rcases h with hDate | ⟨_, -, hTests⟩
    · obtain ⟨_, -, hError⟩ := mapError_eq_error_iff.mp hDate
      cases hError
    · cases hTests
  | text =>
    rw [criteria] at h
    split at h <;> cases h
  | likes | retweets =>
    rw [criteria, bind_eq_error_iff, criteria.countBound] at h
    rcases h with hBound | ⟨_, -, hTests⟩
    · split at hBound <;> cases hBound
    · cases hTests

theorem conditionOf_eq_badAge {now : Instant} {name op literal token : Token} {e : AgeError}
    (h : conditionOf now name op literal = .error (.invalidCondition (.badAge e) token)) :
    literal.kind = .age ∧ Age.instantBefore literal.value now = .error e := by
  unfold conditionOf at h
  split at h
  · cases h
  split at h
  · cases h
  split at h
  · cases h
  rename_i hKind
  rw [not_not] at hKind
  split at h
  · cases h
  · rename_i hTests
    cases h
    obtain ⟨rfl, hInstant⟩ := Field.criteria_eq_badAge hTests
    exact ⟨hKind, hInstant⟩

/-- The tokens of a rule that are ages are never malformed. -/
theorem read_ne_malformed (options : Options) (text literal : String) (token : Token) :
    Rule.read options text ≠ .error (.invalidCondition (.badAge (.malformed literal)) token) := by
  intro h
  obtain ⟨-, k, place, -, hFault⟩ := exists_faultAt h nofun
  cases hFault with
  | @invalid _ _ _ literal _ _ _ hTokens _ _ _ _ hCondition =>
    obtain ⟨hKind, hInstant⟩ := conditionOf_eq_badAge hCondition
    have hMem : literal ∈ (TokenStream.ofText text).tokens := by
      apply List.mem_of_mem_drop
      show literal ∈ ((TokenStream.ofText text).drop k).tokens
      rw [hTokens]
      simp
    have hLexical : literal.kind.Language literal.value.toList :=
      isLexical_of_mem_scanFrom literal hMem
    rw [hKind, Age.language_iff] at hLexical
    obtain ⟨years, months, days, hGroups⟩ := hLexical
    exact hGroups.read_ne_malformed _ (Age.read_of_instantBefore hInstant)

/-- The texts of ages agree. A text is one age token exactly if it is groups of digits with the
units of years, months and days, and exactly if it is not malformed as an age, so that no rule has a
malformed age. It is read as the numbers that the groups write if all of them fit into 32 bits, and
is out of range if they do not. What is written for an age is an age token, and is read as that
age. -/
theorem age_texts_agree :
    (∀ literal,
      (TokenKind.age.IsWhole literal ↔ ∃ years months days, Age.Groups literal years months days) ∧
      (TokenKind.age.IsWhole literal ↔ ∀ other, Age.read literal ≠ .error (.malformed other))) ∧
    (∀ options text literal token,
      Rule.read options text ≠ .error (.invalidCondition (.badAge (.malformed literal)) token)) ∧
    (∀ literal years months days, Age.Groups literal years months days →
      (decimalValue years < UInt32.size ∧ decimalValue months < UInt32.size ∧
          decimalValue days < UInt32.size →
        ∃ age, Age.read literal = .ok age ∧ age.years.toNat = decimalValue years ∧
          age.months.toNat = decimalValue months ∧ age.days.toNat = decimalValue days) ∧
      (¬ (decimalValue years < UInt32.size ∧ decimalValue months < UInt32.size ∧
          decimalValue days < UInt32.size) →
        Age.read literal = .error (.outOfRange literal))) ∧
    ∀ age : Age, TokenKind.age.IsWhole age.text ∧ Age.read age.text = .ok age := by
  refine ⟨fun literal => ?_, read_ne_malformed, fun literal years months days h => ?_,
    fun age => ?_⟩
  · rw [TokenKind.isWhole_iff, Age.language_iff]
    refine ⟨Iff.rfl, fun ⟨_, _, _, h⟩ => h.read_ne_malformed, fun h => ?_⟩
    exact (Age.groups_or_malformed literal).resolve_right (h literal)
  · rw [← h.exists_read_iff]
    exact ⟨fun ⟨age, hAge⟩ => ⟨age, hAge, h.read_eq_ok_iff.mp hAge⟩, h.read_ok_or.resolve_left⟩
  · obtain ⟨years, months, days, h, hCounts⟩ := age.exists_groups_text
    rw [TokenKind.isWhole_iff, Age.language_iff]
    exact ⟨⟨years, months, days, h⟩, h.read_eq_ok_iff.mpr hCounts⟩

example : Age.read "007y4294967296d" = .error (.outOfRange "007y4294967296d") := by decide

end PostSieve.Rule
