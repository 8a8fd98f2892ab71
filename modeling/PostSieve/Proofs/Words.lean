import Mathlib.Data.List.Forall2
import Mathlib.Data.List.TakeWhile
import PostSieve.Rule.TokenStream

/-! The languages of the token kinds: which texts are whole tokens of each kind, that no text is a
token of two kinds, and that a kind measures the longest of its tokens at the start of a text. -/

namespace PostSieve.Rule

/-- Digits and a unit letter after them, as in `10d`. -/
def IsUnit (unit : Char) (text : List Char) : Prop :=
  ∃ digits, digits ≠ [] ∧ (∀ c ∈ digits, c.isDigit = true) ∧ text = digits ++ [unit]

/-- Nothing, or digits and a unit letter after them. -/
def IsUnitOrNil (unit : Char) (text : List Char) : Prop := text = [] ∨ IsUnit unit text

namespace TokenKind

/-- The kinds whose tokens are all the same text. -/
def isSymbol : TokenKind → Bool
  | name | number | string | age | date | endOfText => false
  | _ => true

/-- The texts that are tokens of a kind. -/
def Language : TokenKind → List Char → Prop
  | name => fun text => text ≠ [] ∧ ∀ c ∈ text, isNameChar c = true
  | number => fun text => text ≠ [] ∧ ∀ c ∈ text, c.isDigit = true
  | string => fun text => ∃ body, '"' ∉ body ∧ text = '"' :: (body ++ ['"'])
  | age => fun text => text ≠ [] ∧ ∃ years months days, text = years ++ (months ++ days) ∧
      IsUnitOrNil 'y' years ∧ IsUnitOrNil 'm' months ∧ IsUnitOrNil 'd' days
  | date => List.Forall₂ (fun admits c => admits c = true) dateClasses
  | endOfText => fun _ => False
  | kind => fun text => text = kind.text.toList

/-- A kind is one of those with many tokens, the end of the text, or a symbol. -/
@[elab_as_elim]
theorem symbolCases {motive : TokenKind → Prop} (name : motive name) (number : motive number)
    (string : motive string) (age : motive age) (date : motive date)
    (endOfText : motive endOfText) (symbol : ∀ kind, kind.isSymbol = true → motive kind)
    (kind : TokenKind) : motive kind := by
  cases kind <;> first | assumption | exact symbol _ rfl

theorem language_symbol {kind : TokenKind} (h : kind.isSymbol = true) {text : List Char} :
    kind.Language text ↔ text = kind.text.toList := by
  cases kind <;> first | exact Iff.rfl | cases h

theorem measure_symbol {kind : TokenKind} (h : kind.isSymbol = true) :
    kind.measure = measureSymbol kind.text := by
  cases kind <;> first | rfl | cases h

end TokenKind

/-! ### Characters and classes -/

theorem isDigit_iff {c : Char} : c.isDigit = true ↔ 48 ≤ c.toNat ∧ c.toNat ≤ 57 :=
  Char.isDigit_iff_toNat

theorem isAlpha_iff {c : Char} :
    c.isAlpha = true ↔ 65 ≤ c.toNat ∧ c.toNat ≤ 90 ∨ 97 ≤ c.toNat ∧ c.toNat ≤ 122 := by
  have hUpper : c.isUpper = true ↔ 65 ≤ c.toNat ∧ c.toNat ≤ 90 := decide_eq_true_iff
  have hLower : c.isLower = true ↔ 97 ≤ c.toNat ∧ c.toNat ≤ 122 := by
    show (decide _ && decide _) = true ↔ _
    rw [Bool.and_eq_true, decide_eq_true_iff, decide_eq_true_iff]
    exact Iff.rfl
  show (c.isUpper || c.isLower) = true ↔ _
  rw [Bool.or_eq_true, hUpper, hLower]

theorem isBlank_toNat {c : Char} (h : isBlank c = true) : c.toNat ≤ 32 ∨ 133 ≤ c.toNat := by
  simp only [isBlank, Bool.or_eq_true, Bool.and_eq_true, decide_eq_true_eq, beq_iff_eq] at h
  omega

theorem isNameChar_iff {c : Char} : isNameChar c = true ↔ c.isAlpha = true ∨ c.toNat = 95 := by
  rw [isNameChar, Bool.or_eq_true, beq_iff_eq, ← Char.toNat_inj]
  rfl

theorem startsWith_iff : ∀ {classes : List (Char → Bool)} {text : List Char},
    startsWith classes text = true ↔
      classes.length ≤ text.length ∧
        List.Forall₂ (fun admits c => admits c = true) classes (text.take classes.length)
  | [], _ => by simp [startsWith]
  | _ :: _, [] => by simp [startsWith]
  | p :: classes, c :: text => by
    have ih := @startsWith_iff classes text
    simp [startsWith, ih, and_left_comm]

theorem forall₂_symbol {symbol text : List Char} :
    List.Forall₂ (fun admits c => admits c = true) (symbol.map (· == ·)) text ↔ text = symbol := by
  rw [List.forall₂_map_left_iff]
  simp only [beq_iff_eq]
  rw [List.forall₂_eq_eq_eq, eq_comm]

/-- A run of characters ends at the first that is not of its class. -/
theorem takeWhile_run {p : Char → Bool} {run : List Char} (hRun : ∀ c ∈ run, p c = true)
    {c : Char} (hc : p c = false) (rest : List Char) :
    (run ++ c :: rest).takeWhile p = run := by
  rw [List.takeWhile_append_of_pos hRun, List.takeWhile_cons_of_neg (by simp [hc]),
    List.append_nil]

/-! ### Measures of ages -/

theorem isUnitOrNil_take_measureUnit (unit : Char) (text : List Char) :
    IsUnitOrNil unit (text.take (measureUnit unit text)) := by
  unfold measureUnit
  simp only
  split
  · rename_i h
    obtain ⟨hDigits, hUnit⟩ := h
    refine Or.inr ⟨text.takeWhile Char.isDigit, ?_, fun c hc => List.mem_takeWhile_imp hc, ?_⟩
    · exact fun h => hDigits (by rw [h, List.length_nil])
    · rw [List.take_add, List.take_one, hUnit, Option.toList_some,
        ← List.prefix_iff_eq_take.mp (List.takeWhile_prefix _)]
  · exact Or.inl List.take_zero

theorem measureUnit_append {unit unit' : Char} {text : List Char} (h : IsUnit unit text)
    (hUnit : unit.isDigit = false) (rest : List Char) :
    measureUnit unit' (text ++ rest) = if unit = unit' then text.length else 0 := by
  obtain ⟨digits, hNe, hDigits, rfl⟩ := h
  have hRun := takeWhile_run hDigits hUnit rest
  have hLength : digits.length ≠ 0 := fun h => hNe (List.length_eq_zero_iff.mp h)
  unfold measureUnit
  simp [hRun, hNe]

theorem length_le_measureAge {years months days : List Char} (hYears : IsUnitOrNil 'y' years)
    (hMonths : IsUnitOrNil 'm' months) (hDays : IsUnitOrNil 'd' days) (rest : List Char) :
    (years ++ (months ++ days)).length ≤ measureAge (years ++ (months ++ days) ++ rest) := by
  -- A group that is there is measured exactly, and no other unit is found at its place.
  rcases hYears with rfl | hYears <;> rcases hMonths with rfl | hMonths <;>
    rcases hDays with rfl | hDays
  · simp
  · simp [measureAge, measureUnit_append hDays]
  · simp [measureAge, measureUnit_append hMonths]
  · simp [measureAge, measureUnit_append hMonths, measureUnit_append hDays]
  · simp [measureAge, measureUnit_append hYears, Nat.add_assoc]
  · simp [measureAge, measureUnit_append hYears, measureUnit_append hDays]
  · simp [measureAge, measureUnit_append hYears, measureUnit_append hMonths, Nat.add_assoc]
  · simp [measureAge, measureUnit_append hYears, measureUnit_append hMonths,
      measureUnit_append hDays, Nat.add_assoc]

/-! ### Measures and languages -/

theorem forall₂_take_measureClasses {classes : List (Char → Bool)} {text : List Char}
    (h : 0 < measureClasses classes text) :
    List.Forall₂ (fun admits c => admits c = true) classes
      (text.take (measureClasses classes text)) := by
  unfold measureClasses at h ⊢
  split at h
  · rename_i hStart
    rw [if_pos hStart]
    exact (startsWith_iff.mp hStart).2
  · exact absurd h (Nat.lt_irrefl 0)

theorem measureClasses_append {classes : List (Char → Bool)} {text : List Char}
    (h : List.Forall₂ (fun admits c => admits c = true) classes text) (rest : List Char) :
    measureClasses classes (text ++ rest) = text.length := by
  have hLength := h.length_eq
  rw [measureClasses, if_pos, hLength]
  rw [startsWith_iff, hLength, List.take_left, List.length_append]
  exact ⟨Nat.le_add_right _ _, h⟩

theorem language_take_measureString {text : List Char} (h : 0 < measureString text) :
    TokenKind.string.Language (text.take (measureString text)) := by
  unfold measureString at h ⊢
  split at h
  · rename_i text
    simp only at h ⊢
    split at h
    · rename_i hClose
      refine ⟨text.takeWhile (· != '"'), ?_, ?_⟩
      · intro hMem
        simpa using List.mem_takeWhile_imp hMem
      · rw [if_pos hClose, List.take_succ_cons, List.take_add, List.take_one, hClose,
          Option.toList_some, ← List.prefix_iff_eq_take.mp (List.takeWhile_prefix _)]
    · exact absurd h (Nat.lt_irrefl 0)
  · exact absurd h (Nat.lt_irrefl 0)

theorem measureString_append {body : List Char} (h : '"' ∉ body) (rest : List Char) :
    measureString ('"' :: (body ++ '"' :: rest)) = body.length + 2 := by
  have hRun : (body ++ '"' :: rest).takeWhile (· != '"') = body :=
    takeWhile_run (fun c hc => bne_iff_ne.mpr (ne_of_mem_of_not_mem hc h)) (by decide) rest
  simp [measureString, hRun]

namespace TokenKind

/-- What a kind measures at the start of a text is one of its tokens. -/
theorem language_take_measure {kind : TokenKind} {text : List Char} (h : 0 < kind.measure text) :
    kind.Language (text.take (kind.measure text)) := by
  have hNe : text.take (kind.measure text) ≠ [] := by
    have := kind.measure_le text
    rw [← List.length_pos_iff, List.length_take]
    omega
  cases kind using symbolCases with
  | name =>
    refine ⟨hNe, ?_⟩
    rw [measure, ← List.prefix_iff_eq_take.mp (List.takeWhile_prefix _)]
    exact fun c hc => List.mem_takeWhile_imp hc
  | number =>
    refine ⟨hNe, ?_⟩
    rw [measure, ← List.prefix_iff_eq_take.mp (List.takeWhile_prefix _)]
    exact fun c hc => List.mem_takeWhile_imp hc
  | string => exact language_take_measureString h
  | age =>
    refine ⟨hNe, ?_⟩
    simp only [measure, measureAge, List.take_add, List.append_assoc]
    exact ⟨_, _, _, rfl, isUnitOrNil_take_measureUnit 'y' text,
      isUnitOrNil_take_measureUnit 'm' _, isUnitOrNil_take_measureUnit 'd' _⟩
  | date => exact forall₂_take_measureClasses h
  | endOfText => exact absurd h (Nat.lt_irrefl 0)
  | symbol kind hs =>
    rw [measure_symbol hs] at h ⊢
    exact (language_symbol hs).mpr (forall₂_symbol.mp (forall₂_take_measureClasses h))

/-- At the start of a text a kind measures no less than any token of it that stands there. -/
theorem length_le_measure {kind : TokenKind} {token : List Char} (h : kind.Language token)
    (rest : List Char) : token.length ≤ kind.measure (token ++ rest) := by
  cases kind using symbolCases with
  | name =>
    simp only [measure]
    rw [List.takeWhile_append_of_pos h.2, List.length_append]
    exact Nat.le_add_right _ _
  | number =>
    simp only [measure]
    rw [List.takeWhile_append_of_pos h.2, List.length_append]
    exact Nat.le_add_right _ _
  | string =>
    obtain ⟨body, hBody, rfl⟩ := h
    simp [measure, measureString_append hBody]
  | age =>
    obtain ⟨-, years, months, days, rfl, hYears, hMonths, hDays⟩ := h
    exact length_le_measureAge hYears hMonths hDays rest
  | date => exact (measureClasses_append h rest).ge
  | endOfText => exact h.elim
  | symbol kind hs =>
    rw [measure_symbol hs]
    exact (measureClasses_append (forall₂_symbol.mpr ((language_symbol hs).mp h)) rest).ge

/-! ### What tokens begin with -/

/-- The classes of characters that tokens begin with, and those that none begins with. -/
inductive Lead
  | letter | digit | quote | mark | other
deriving DecidableEq

/-- The characters that symbols begin with. -/
def marks : List Char := ['(', ')', '|', '&', '>', '<', '=', '!', '~']

/-- The class of a character at the beginning of a token. -/
def Lead.ofChar (c : Char) : Lead :=
  if isNameChar c then letter else if c.isDigit then digit else if c = '"' then quote
  else if c ∈ marks then mark else other

/-- The class that the tokens of a kind begin with. -/
def lead : TokenKind → Lead
  | name => .letter
  | number | age | date => .digit
  | string => .quote
  | endOfText => .other
  | _ => .mark

theorem ofChar_of_isNameChar {c : Char} (h : isNameChar c = true) : Lead.ofChar c = .letter :=
  if_pos h

theorem ofChar_of_isDigit {c : Char} (h : c.isDigit = true) : Lead.ofChar c = .digit := by
  rw [Lead.ofChar, if_neg, if_pos h]
  rw [isDigit_iff] at h
  rw [isNameChar_iff, isAlpha_iff]
  omega

theorem ofChar_of_isBlank {c : Char} (h : isBlank c = true) : Lead.ofChar c = .other := by
  have hNat := isBlank_toNat h
  have hMarks : ∀ mark ∈ '"' :: marks, ¬ (mark.toNat ≤ 32 ∨ 133 ≤ mark.toNat) := by simp [marks]
  rw [List.forall_mem_cons] at hMarks
  rw [Lead.ofChar, if_neg, if_neg, if_neg, if_neg fun hMem => hMarks.2 c hMem hNat]
  · rintro rfl
    exact hMarks.1 hNat
  · rw [isDigit_iff]
    omega
  · rw [isNameChar_iff, isAlpha_iff]
    omega

theorem ofChar_symbol {kind : TokenKind} (h : kind.isSymbol = true) :
    ∃ c rest, kind.text.toList = c :: rest ∧ Lead.ofChar c = kind.lead := by
  cases kind <;> first | exact ⟨_, _, rfl, by decide⟩ | cases h

theorem ofChar_unit {unit : Char} {text : List Char} (h : IsUnit unit text) (rest : List Char) :
    ∃ c tail, text ++ rest = c :: tail ∧ Lead.ofChar c = .digit := by
  obtain ⟨digits, hNe, hDigits, rfl⟩ := h
  obtain ⟨c, tail, rfl⟩ := List.exists_cons_of_ne_nil hNe
  exact ⟨c, _, rfl, ofChar_of_isDigit (hDigits c List.mem_cons_self)⟩

/-- A token is not empty and begins with a character of its kind's class. -/
theorem Language.lead_eq {kind : TokenKind} {text : List Char} (h : kind.Language text) :
    ∃ c rest, text = c :: rest ∧ Lead.ofChar c = kind.lead := by
  cases kind using symbolCases with
  | name =>
    obtain ⟨c, rest, rfl⟩ := List.exists_cons_of_ne_nil h.1
    exact ⟨c, rest, rfl, ofChar_of_isNameChar (h.2 c List.mem_cons_self)⟩
  | number =>
    obtain ⟨c, rest, rfl⟩ := List.exists_cons_of_ne_nil h.1
    exact ⟨c, rest, rfl, ofChar_of_isDigit (h.2 c List.mem_cons_self)⟩
  | string =>
    obtain ⟨body, -, rfl⟩ := h
    exact ⟨_, _, rfl, by decide⟩
  | age =>
    obtain ⟨hNe, years, months, days, rfl, hYears, hMonths, hDays⟩ := h
    rcases hYears with rfl | hYears
    · rcases hMonths with rfl | hMonths
      · rcases hDays with rfl | hDays
        · exact absurd rfl hNe
        · exact List.append_nil days ▸ ofChar_unit hDays []
      · exact ofChar_unit hMonths days
    · exact ofChar_unit hYears (months ++ days)
  | date =>
    obtain ⟨c, rest, hDigit, -, rfl⟩ := List.forall₂_cons_left_iff.mp h
    exact ⟨c, rest, rfl, ofChar_of_isDigit hDigit⟩
  | endOfText => exact h.elim
  | symbol kind hs =>
    rw [language_symbol hs] at h
    exact h ▸ ofChar_symbol hs

/-! ### No text is a token of two kinds -/

theorem eq_name_of_lead {kind : TokenKind} (h : kind.lead = .letter) : kind = name := by
  cases kind <;> first | rfl | cases h

theorem eq_string_of_lead {kind : TokenKind} (h : kind.lead = .quote) : kind = string := by
  cases kind <;> first | rfl | cases h

theorem eq_endOfText_of_lead {kind : TokenKind} (h : kind.lead = .other) : kind = endOfText := by
  cases kind <;> first | rfl | cases h

theorem numeric_of_lead {kind : TokenKind} (h : kind.lead = .digit) :
    kind = number ∨ kind = age ∨ kind = date := by
  cases kind <;> first | cases h; done | simp

theorem lead_eq_mark_iff {kind : TokenKind} : kind.lead = .mark ↔ kind.isSymbol = true := by
  cases kind <;> simp [lead, isSymbol]

theorem text_injective {kind kind' : TokenKind} (h : kind.text = kind'.text) : kind = kind' := by
  cases kind <;> cases kind' <;> first | rfl | (exact absurd h (by decide))

/-- Of the symbols only `>` and `<` are the beginnings of others. -/
theorem text_eq_text_append {kind kind' : TokenKind} {c : Char} {rest : List Char}
    (h : kind'.text.toList = kind.text.toList ++ c :: rest) :
    (kind = gt ∨ kind = lt) ∧ c = '=' := by
  cases kind <;> cases kind' <;> simp [text] at h <;> exact ⟨by simp, h.1.symm⟩

theorem language_date {text : List Char} : date.Language text ↔
    ∃ d₁ d₂ m₁ m₂ m₃ y₁ y₂ y₃ y₄, text = [d₁, d₂, '-', m₁, m₂, m₃, '-', y₁, y₂, y₃, y₄] ∧
      (∀ c ∈ [d₁, d₂, y₁, y₂, y₃, y₄], c.isDigit = true) ∧
      ∀ c ∈ [m₁, m₂, m₃], c.isAlpha = true := by
  simp only [Language, dateClasses, List.forall₂_cons_left_iff, List.forall₂_nil_left_iff]
  constructor
  · intro h
    simp only [↓existsAndEq, beq_iff_eq, and_self, and_true, exists_and_left, true_and] at h
    obtain ⟨d₁, h₁, d₂, m₁, m₂, m₃, y₁, y₂, y₃, y₄, h, rfl⟩ := h
    exact ⟨d₁, d₂, m₁, m₂, m₃, y₁, y₂, y₃, y₄, rfl, by simp [h₁, h], by simp [h]⟩
  · rintro ⟨d₁, d₂, m₁, m₂, m₃, y₁, y₂, y₃, y₄, rfl, hDigits, hLetters⟩
    simp only [List.forall_mem_cons] at hDigits hLetters
    simp [hDigits, hLetters]

theorem mem_unit {unit c : Char} {text : List Char} (h : IsUnitOrNil unit text) (hc : c ∈ text) :
    c.isDigit = true ∨ c = unit := by
  rcases h with rfl | ⟨digits, -, hDigits, rfl⟩
  · cases hc
  · rcases List.mem_append.mp hc with hc | hc
    · exact Or.inl (hDigits c hc)
    · exact Or.inr (List.mem_singleton.mp hc)

/-- The characters of an age are digits and the three unit letters. -/
theorem mem_age {text : List Char} (h : age.Language text) {c : Char} (hc : c ∈ text) :
    c.isDigit = true ∨ c = 'y' ∨ c = 'm' ∨ c = 'd' := by
  obtain ⟨-, years, months, days, rfl, hYears, hMonths, hDays⟩ := h
  rcases List.mem_append.mp hc with hc | hc
  · exact (mem_unit hYears hc).imp_right Or.inl
  rcases List.mem_append.mp hc with hc | hc
  · exact (mem_unit hMonths hc).imp_right fun h => Or.inr (Or.inl h)
  · exact (mem_unit hDays hc).imp_right fun h => Or.inr (Or.inr h)

/-- An age ends with a letter. -/
theorem exists_isAlpha_of_age {text : List Char} (h : age.Language text) :
    ∃ c ∈ text, c.isAlpha = true := by
  have hUnit {unit : Char} {part : List Char} (hPart : IsUnitOrNil unit part) :
      part = [] ∨ unit ∈ part := by
    rcases hPart with rfl | ⟨digits, -, -, rfl⟩ <;> simp
  obtain ⟨hNe, years, months, days, rfl, hYears, hMonths, hDays⟩ := h
  rcases hUnit hYears with rfl | hy
  · rcases hUnit hMonths with rfl | hm
    · rcases hUnit hDays with rfl | hd
      · exact absurd rfl hNe
      · exact ⟨'d', by simp [hd], by decide⟩
    · exact ⟨'m', by simp [hm], by decide⟩
  · exact ⟨'y', by simp [hy], by decide⟩

/-- The characters of which the tokens that begin with a digit are made. -/
def isNumericChar (c : Char) : Bool := c.isDigit || c.isAlpha || c == '-'

theorem Language.isNumericChar {kind : TokenKind} (hLead : kind.lead = .digit)
    {text : List Char} (h : kind.Language text) {c : Char} (hc : c ∈ text) :
    isNumericChar c = true := by
  rcases numeric_of_lead hLead with rfl | rfl | rfl
  · simp [TokenKind.isNumericChar, h.2 c hc]
  · rcases mem_age h hc with h | rfl | rfl | rfl <;> simp [TokenKind.isNumericChar, *]
  · obtain ⟨d₁, d₂, m₁, m₂, m₃, y₁, y₂, y₃, y₄, rfl, hDigits, hLetters⟩ := language_date.mp h
    simp only [List.forall_mem_cons] at hDigits hLetters
    simp only [List.mem_cons, List.not_mem_nil, or_false] at hc
    rcases hc with rfl | rfl | rfl | rfl | rfl | rfl | rfl | rfl | rfl | rfl | rfl <;>
      simp [TokenKind.isNumericChar, hDigits, hLetters]

/-- Of the tokens that begin with a digit those with a hyphen are dates. -/
theorem hyphen_mem_iff {kind : TokenKind} (hLead : kind.lead = .digit) {text : List Char}
    (h : kind.Language text) : '-' ∈ text ↔ kind = date := by
  rcases numeric_of_lead hLead with rfl | rfl | rfl
  · exact ⟨fun hc => absurd (h.2 _ hc) (by decide), nofun⟩
  · refine ⟨fun hc => ?_, nofun⟩
    rcases mem_age h hc with h | h | h | h <;> exact absurd h (by decide)
  · obtain ⟨_, _, _, _, _, _, _, _, _, rfl, -⟩ := language_date.mp h
    simp

/-- Of the tokens that begin with a digit those without a letter are numbers. -/
theorem letter_mem_iff {kind : TokenKind} (hLead : kind.lead = .digit) {text : List Char}
    (h : kind.Language text) : (∃ c ∈ text, c.isAlpha = true) ↔ kind ≠ number := by
  rcases numeric_of_lead hLead with rfl | rfl | rfl
  · refine ⟨fun ⟨c, hc, hAlpha⟩ => ?_, fun h => absurd rfl h⟩
    have hDigit := h.2 c hc
    rw [isDigit_iff] at hDigit
    rw [isAlpha_iff] at hAlpha
    omega
  · exact ⟨fun _ => nofun, fun _ => exists_isAlpha_of_age h⟩
  · obtain ⟨_, _, m₁, _, _, _, _, _, _, rfl, -, hLetters⟩ := language_date.mp h
    exact ⟨fun _ => nofun, fun _ => ⟨m₁, by simp, hLetters m₁ (by simp)⟩⟩

/-- No text is a token of two kinds. -/
theorem Language.unique {kind kind' : TokenKind} {text : List Char} (h : kind.Language text)
    (h' : kind'.Language text) : kind = kind' := by
  obtain ⟨c, rest, rfl, hLead⟩ := h.lead_eq
  obtain ⟨_, _, hEq, hLead'⟩ := h'.lead_eq
  cases hEq
  cases hc : Lead.ofChar c with
  | letter =>
    rw [hc] at hLead hLead'
    rw [eq_name_of_lead hLead.symm, eq_name_of_lead hLead'.symm]
  | quote =>
    rw [hc] at hLead hLead'
    rw [eq_string_of_lead hLead.symm, eq_string_of_lead hLead'.symm]
  | digit =>
    rw [hc] at hLead hLead'
    have hDate := (hyphen_mem_iff hLead.symm h).symm.trans (hyphen_mem_iff hLead'.symm h')
    have hNumber := (letter_mem_iff hLead.symm h).symm.trans (letter_mem_iff hLead'.symm h')
    rcases numeric_of_lead hLead.symm with rfl | rfl | rfl <;>
      rcases numeric_of_lead hLead'.symm with rfl | rfl | rfl <;> simp at hDate hNumber ⊢
  | mark =>
    rw [hc] at hLead hLead'
    rw [language_symbol (lead_eq_mark_iff.mp hLead.symm)] at h
    rw [language_symbol (lead_eq_mark_iff.mp hLead'.symm)] at h'
    exact text_injective (String.toList_injective (h.symm.trans h'))
  | other =>
    rw [hc] at hLead
    obtain rfl := eq_endOfText_of_lead hLead.symm
    exact h.elim

end TokenKind

end PostSieve.Rule
