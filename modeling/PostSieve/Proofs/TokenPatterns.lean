import PostSieve.Proofs.Words

/-! The patterns of the token kinds: regular expressions with an order of preference among their
matches. For these patterns the match that is preferred is the longest one, and it is what the kind
measures at the start of a text. -/

namespace PostSieve.Rule

/-- Regular expressions for the start of a text. -/
inductive TokenPattern
  | empty
  | one (admits : Char → Bool)
  /-- Any number of characters of a class, as many as possible. -/
  | many (admits : Char → Bool)
  | seq (a b : TokenPattern)
  /-- The first alternative is preferred. -/
  | alt (a b : TokenPattern)

namespace TokenPattern

/-- The texts that a pattern matches as a whole. -/
def Matches : TokenPattern → List Char → Prop
  | empty, text => text = []
  | one admits, text => ∃ c, admits c = true ∧ text = [c]
  | many admits, text => ∀ c ∈ text, admits c = true
  | seq a b, text => ∃ first second, text = first ++ second ∧ a.Matches first ∧ b.Matches second
  | alt a b, text => a.Matches text ∨ b.Matches text

/-- What is left of a text after each run of characters of a class at its start, the longest run
first. -/
def restsOfRun (admits : Char → Bool) : List Char → List (List Char)
  | [] => [[]]
  | c :: text => if admits c then restsOfRun admits text ++ [c :: text] else [c :: text]

/-- What is left of a text after each match at its start, in the order of preference. -/
def rests : TokenPattern → List Char → List (List Char)
  | empty, text => [text]
  | one _, [] => []
  | one admits, c :: text => if admits c then [text] else []
  | many admits, text => restsOfRun admits text
  | seq a b, text => (a.rests text).flatMap b.rests
  | alt a b, text => a.rests text ++ b.rests text

/-- The length of the preferred match at the start of a text, zero when there is none. -/
def measure (pattern : TokenPattern) (text : List Char) : Nat :=
  match (pattern.rests text).head? with
  | some rest => text.length - rest.length
  | none => 0

/-! ### Matches and what they leave -/

theorem mem_restsOfRun_iff {admits : Char → Bool} {text rest : List Char} :
    rest ∈ restsOfRun admits text ↔ ∃ run, text = run ++ rest ∧ ∀ c ∈ run, admits c = true := by
  induction text with
  | nil =>
    simp only [restsOfRun, List.mem_singleton, List.nil_eq_append_iff]
    constructor
    · rintro rfl
      exact ⟨[], ⟨rfl, rfl⟩, nofun⟩
    · rintro ⟨_, ⟨-, rfl⟩, -⟩
      rfl
  | cons c text ih =>
    have hCons : (∃ run, c :: text = run ++ rest ∧ ∀ a ∈ run, admits a = true) ↔
        rest = c :: text ∨
          admits c = true ∧ ∃ run, text = run ++ rest ∧ ∀ a ∈ run, admits a = true := by
      constructor
      · rintro ⟨run, hText, hRun⟩
        cases run with
        | nil => exact Or.inl hText.symm
        | cons a run =>
          cases hText
          rw [List.forall_mem_cons] at hRun
          exact Or.inr ⟨hRun.1, run, rfl, hRun.2⟩
      · rintro (rfl | ⟨hc, run, rfl, hRun⟩)
        · exact ⟨[], rfl, nofun⟩
        · exact ⟨c :: run, rfl, List.forall_mem_cons.mpr ⟨hc, hRun⟩⟩
    rw [hCons, restsOfRun, ← ih]
    by_cases hc : admits c = true <;> simp [hc, or_comm]

/-- The matches at the start of a text are the texts there that the pattern matches. -/
theorem mem_rests_iff {pattern : TokenPattern} {text rest : List Char} :
    rest ∈ pattern.rests text ↔ ∃ first, text = first ++ rest ∧ pattern.Matches first := by
  induction pattern generalizing text rest with
  | empty => simp [rests, Matches, eq_comm]
  | one admits =>
    cases text with
    | nil => simp [rests, Matches]
    | cons c text =>
      by_cases hc : admits c = true
      · simp only [rests, hc, if_true, List.mem_singleton, Matches]
        constructor
        · rintro rfl
          exact ⟨[c], rfl, c, hc, rfl⟩
        · rintro ⟨_, hText, _, -, rfl⟩
          exact (List.cons.inj hText).2.symm
      · simp only [rests, hc, Bool.false_eq_true, if_false, List.not_mem_nil, false_iff, Matches]
        rintro ⟨_, hText, a, ha, rfl⟩
        exact hc ((List.cons.inj hText).1 ▸ ha)
  | many admits => exact mem_restsOfRun_iff
  | seq a b ihA ihB =>
    simp only [rests, List.mem_flatMap, ihA, ihB, Matches]
    constructor
    · rintro ⟨_, ⟨first, rfl, hFirst⟩, second, rfl, hSecond⟩
      exact ⟨first ++ second, (List.append_assoc ..).symm, first, second, rfl, hFirst, hSecond⟩
    · rintro ⟨_, rfl, first, second, rfl, hFirst, hSecond⟩
      exact ⟨second ++ rest, ⟨first, List.append_assoc .., hFirst⟩, second, rfl, hSecond⟩
  | alt a b ihA ihB =>
    simp only [rests, List.mem_append, ihA, ihB, Matches]
    constructor
    · rintro (⟨first, rfl, h⟩ | ⟨first, rfl, h⟩)
      · exact ⟨first, rfl, Or.inl h⟩
      · exact ⟨first, rfl, Or.inr h⟩
    · rintro ⟨first, rfl, h | h⟩
      · exact Or.inl ⟨first, rfl, h⟩
      · exact Or.inr ⟨first, rfl, h⟩

/-- The preferred match at the start of a text is one of the texts there that the pattern
matches. -/
theorem matches_take_measure {pattern : TokenPattern} {text : List Char}
    (h : 0 < pattern.measure text) : pattern.Matches (text.take (pattern.measure text)) := by
  cases hHead : (pattern.rests text).head? with
  | none => simp [measure, hHead] at h
  | some rest =>
    obtain ⟨first, rfl, hMatch⟩ := mem_rests_iff.mp (List.mem_of_head? hHead)
    have hMeasure : pattern.measure (first ++ rest) = first.length := by simp [measure, hHead]
    rwa [hMeasure, List.take_left]

/-! ### The parts of token patterns -/

/-- One or more characters of a class. -/
def oneOrMore (admits : Char → Bool) : TokenPattern := .seq (.one admits) (.many admits)

/-- The pattern or nothing, which is preferred less. -/
def optional (pattern : TokenPattern) : TokenPattern := .alt pattern .empty

/-- One character of each class in turn. -/
def classes (admitted : List (Char → Bool)) : TokenPattern :=
  admitted.foldr (fun admits rest => .seq (.one admits) rest) .empty

def literal (text : String) : TokenPattern := classes (text.toList.map (· == ·))

def unit (letter : Char) : TokenPattern := .seq (oneOrMore Char.isDigit) (.one (· == letter))

end TokenPattern

namespace TokenKind

open TokenPattern

/-- The pattern of a kind; that of the end of the text matches nothing. -/
def pattern : TokenKind → TokenPattern
  | date => classes <| List.replicate 2 Char.isDigit ++ [(· == '-')] ++
      List.replicate 3 Char.isAlpha ++ [(· == '-')] ++ List.replicate 4 Char.isDigit
  | age => .alt (.seq (unit 'y') (.seq (optional (unit 'm')) (optional (unit 'd')))) <|
      .alt (.seq (unit 'm') (optional (unit 'd'))) (unit 'd')
  | number => oneOrMore Char.isDigit
  | name => oneOrMore isNameChar
  | string => .seq (.one (· == '"')) (.seq (.many (· != '"')) (.one (· == '"')))
  | endOfText => .one fun _ => false
  | kind => literal kind.text

end TokenKind

namespace TokenPattern

theorem restsOfRun_head? (admits : Char → Bool) (text : List Char) :
    (restsOfRun admits text).head? = some (text.dropWhile admits) := by
  induction text with
  | nil => rfl
  | cons c text ih =>
    by_cases hc : admits c = true
    · rw [restsOfRun, if_pos hc, List.dropWhile_cons_of_pos hc, List.head?_append, ih]
      rfl
    · rw [restsOfRun, if_neg hc, List.dropWhile_cons_of_neg hc]
      rfl

theorem rests_oneOrMore_head? (admits : Char → Bool) (text : List Char) :
    ((oneOrMore admits).rests text).head? =
      if text.takeWhile admits = [] then none else some (text.dropWhile admits) := by
  cases text with
  | nil => rfl
  | cons c text =>
    by_cases hc : admits c = true
    · simp [oneOrMore, rests, hc, restsOfRun_head?]
    · simp [oneOrMore, rests, hc]

/-- A run that ends before a character of another class has one match only. -/
theorem rests_run_one {admits stop : Char → Bool} (h : ∀ c, stop c = true → admits c = false)
    (text : List Char) : (seq (.many admits) (.one stop)).rests text =
      (one stop).rests (text.dropWhile admits) := by
  induction text with
  | nil => rfl
  | cons c text ih =>
    simp only [rests] at ih ⊢
    by_cases hc : admits c = true
    · have hStop : stop c = false := by
        by_contra hStop
        rw [h c (by simpa using hStop)] at hc
        cases hc
      rw [restsOfRun, if_pos hc, List.flatMap_append, ih, List.dropWhile_cons_of_pos hc]
      simp [rests, hStop]
    · rw [restsOfRun, if_neg hc, List.dropWhile_cons_of_neg hc]
      simp

theorem rests_classes (admitted : List (Char → Bool)) (text : List Char) :
    (classes admitted).rests text =
      if startsWith admitted text then [text.drop admitted.length] else [] := by
  induction admitted generalizing text with
  | nil => rfl
  | cons admits admitted ih =>
    have hClasses : classes (admits :: admitted) = .seq (.one admits) (classes admitted) := rfl
    cases text with
    | nil => rfl
    | cons c text =>
      rw [hClasses, rests, rests, startsWith]
      by_cases hc : admits c = true
      · simp [hc, ih]
      · simp [hc]

theorem drop_length_takeWhile (p : Char → Bool) (text : List Char) :
    text.drop (text.takeWhile p).length = text.dropWhile p := by
  calc text.drop (text.takeWhile p).length
      = (text.takeWhile p ++ text.dropWhile p).drop (text.takeWhile p).length := by
        rw [List.takeWhile_append_dropWhile]
    _ = text.dropWhile p := List.drop_left

theorem rests_one (admits : Char → Bool) (text : List Char) :
    (one admits).rests text = if text.head?.any admits then [text.tail] else [] := by
  cases text <;> rfl

theorem rests_unit {letter : Char} (h : letter.isDigit = false) (text : List Char) :
    (unit letter).rests text =
      if measureUnit letter text = 0 then [] else [text.drop (measureUnit letter text)] := by
  have hStop : ∀ c, (c == letter) = true → Char.isDigit c = false := by
    intro c hc
    rw [eq_of_beq hc]
    exact h
  have hRests : (unit letter).rests text = if text.takeWhile Char.isDigit = [] then [] else
      (one (· == letter)).rests (text.dropWhile Char.isDigit) := by
    cases text with
    | nil => rfl
    | cons c text =>
      by_cases hc : c.isDigit = true
      · have hRun := rests_run_one hStop text
        simp only [rests] at hRun
        simp [unit, oneOrMore, rests, hc, hRun]
      · simp [unit, oneOrMore, rests, hc]
  rw [hRests, rests_one, measureUnit, drop_length_takeWhile]
  by_cases hDigits : text.takeWhile Char.isDigit = []
  · simp [hDigits]
  · cases hHead : (text.dropWhile Char.isDigit).head? with
    | none => simp
    | some c =>
      by_cases hc : c = letter
      · simp [hDigits, hc, ← List.tail_drop, drop_length_takeWhile]
      · simp [hc]

/-- A second part that matches behind the preferred match of the first is not tried elsewhere. -/
theorem rests_seq_head? {a b : TokenPattern} {text rest rest' : List Char}
    (h : (a.rests text).head? = some rest) (h' : (b.rests rest).head? = some rest') :
    ((seq a b).rests text).head? = some rest' := by
  rw [rests]
  cases hRests : a.rests text with
  | nil =>
    rw [hRests] at h
    cases h
  | cons first others =>
    rw [hRests] at h
    cases h
    rw [List.flatMap_cons, List.head?_append, h']
    rfl

/-- Whether the preferred match at the start of `text` takes `n` characters; none takes zero. -/
def Takes (pattern : TokenPattern) (text : List Char) (n : Nat) : Prop :=
  (pattern.rests text).head? = if n = 0 then none else some (text.drop n)

namespace Takes

variable {a b : TokenPattern} {text : List Char} {m n : Nat}

theorem measure_eq (h : a.Takes text n) (hLe : n ≤ text.length) : a.measure text = n := by
  rw [measure, h]
  by_cases hn : n = 0
  · simp [hn]
  · simp only [if_neg hn, List.length_drop]
    omega

theorem rests_eq_nil (h : a.Takes text 0) : a.rests text = [] := List.head?_eq_none_iff.mp h

theorem alt_left (h : a.Takes text n) (hPos : n ≠ 0) : (alt a b).Takes text n := by
  rw [Takes, if_neg hPos] at h ⊢
  rw [rests, List.head?_append, h]
  rfl

theorem alt_right (h : a.Takes text 0) (h' : b.Takes text n) : (alt a b).Takes text n := by
  rw [Takes, rests, h.rests_eq_nil]
  exact h'

theorem seq_of_zero (h : a.Takes text 0) : (seq a b).Takes text 0 := by
  rw [Takes, rests, h.rests_eq_nil]
  rfl

theorem seq (h : a.Takes text n) (hPos : n ≠ 0)
    (h' : (b.rests (text.drop n)).head? = some ((text.drop n).drop m)) :
    (seq a b).Takes text (n + m) := by
  rw [Takes, if_neg hPos] at h
  rw [Takes, if_neg (by omega), ← List.drop_drop]
  exact rests_seq_head? h h'

end Takes

theorem takes_classes {admitted : List (Char → Bool)} (h : admitted ≠ []) (text : List Char) :
    (classes admitted).Takes text (measureClasses admitted text) := by
  have hLength : admitted.length ≠ 0 := fun hZero => h (List.length_eq_zero_iff.mp hZero)
  rw [Takes, rests_classes, measureClasses]
  by_cases hStart : startsWith admitted text = true <;> simp [hStart, hLength]

theorem takes_oneOrMore (admits : Char → Bool) (text : List Char) :
    (oneOrMore admits).Takes text (text.takeWhile admits).length := by
  rw [Takes, rests_oneOrMore_head?, drop_length_takeWhile]
  simp only [List.length_eq_zero_iff]

theorem takes_string (text : List Char) :
    TokenKind.string.pattern.Takes text (measureString text) := by
  have hStop : ∀ c, (c == '"') = true → (c != '"') = false := by
    intro c hc
    rw [bne, hc]
    rfl
  rw [Takes]
  cases text with
  | nil => rfl
  | cons c text =>
    by_cases hc : c = '"'
    · subst hc
      have hRests : TokenKind.string.pattern.rests ('"' :: text) =
          (seq (.many (· != '"')) (.one (· == '"'))).rests text := by
        rw [TokenKind.pattern, rests, rests]
        simp
      rw [hRests, rests_run_one hStop, rests_one, measureString, drop_length_takeWhile]
      cases hHead : (text.dropWhile (· != '"')).head? with
      | none => simp
      | some c =>
        by_cases hc : c = '"'
        · simp only [hc, Option.any_some, beq_self_eq_true, if_true, List.head?_cons,
            Nat.add_eq_zero_iff, Nat.reduceEqDiff, and_false, if_false, List.drop_succ_cons]
          rw [← List.tail_drop, drop_length_takeWhile]
        · simp [hc]
    · have hMeasure : measureString (c :: text) = 0 := by
        rw [measureString]
        intro rest hText
        exact hc (List.cons.inj hText).1
      simp [hMeasure, TokenKind.pattern, rests, hc]

theorem takes_unit {letter : Char} (h : letter.isDigit = false) (text : List Char) :
    (unit letter).Takes text (measureUnit letter text) := by
  rw [Takes, rests_unit h]
  by_cases hZero : measureUnit letter text = 0 <;> simp [hZero]

theorem rests_optional_head? {pattern : TokenPattern} {text : List Char} {n : Nat}
    (h : pattern.Takes text n) : ((optional pattern).rests text).head? = some (text.drop n) := by
  rw [optional, rests, List.head?_append, h]
  by_cases hZero : n = 0 <;> simp [hZero, rests]

/-- Of an age the preferred match takes each unit that is there. -/
theorem takes_age (text : List Char) : TokenKind.age.pattern.Takes text (measureAge text) := by
  have hYear := @takes_unit 'y' (by decide)
  have hMonth := @takes_unit 'm' (by decide)
  have hDay := @takes_unit 'd' (by decide)
  rw [TokenKind.pattern, measureAge]
  by_cases hYears : measureUnit 'y' text = 0
  · have hNone := hYear text
    rw [hYears] at hNone ⊢
    refine hNone.seq_of_zero.alt_right ?_
    rw [List.drop_zero, Nat.zero_add]
    by_cases hMonths : measureUnit 'm' text = 0
    · have hNone := hMonth text
      rw [hMonths] at hNone ⊢
      refine hNone.seq_of_zero.alt_right ?_
      rw [List.drop_zero, Nat.zero_add]
      exact hDay text
    · apply Takes.alt_left
      · exact (hMonth text).seq hMonths (rests_optional_head? (hDay _))
      · omega
  · apply Takes.alt_left
    · rw [Nat.add_assoc, ← List.drop_drop]
      refine (hYear text).seq hYears ?_
      rw [← List.drop_drop]
      exact rests_seq_head? (rests_optional_head? (hMonth _)) (rests_optional_head? (hDay _))
    · omega

/-! ### What patterns match and what kinds measure -/

theorem matches_classes_iff {admitted : List (Char → Bool)} {text : List Char} :
    (classes admitted).Matches text ↔
      List.Forall₂ (fun admits c => admits c = true) admitted text := by
  induction admitted generalizing text with
  | nil => simp [classes, Matches]
  | cons admits admitted ih =>
    have hClasses : classes (admits :: admitted) = .seq (.one admits) (classes admitted) := rfl
    rw [hClasses, List.forall₂_cons_left_iff]
    simp only [Matches, ih]
    constructor
    · rintro ⟨_, rest, rfl, ⟨c, hc, rfl⟩, hRest⟩
      exact ⟨c, rest, hc, hRest, rfl⟩
    · rintro ⟨c, rest, hc, hRest, rfl⟩
      exact ⟨[c], rest, rfl, ⟨c, hc, rfl⟩, hRest⟩

theorem matches_oneOrMore_iff {admits : Char → Bool} {text : List Char} :
    (oneOrMore admits).Matches text ↔ text ≠ [] ∧ ∀ c ∈ text, admits c = true := by
  simp only [oneOrMore, Matches]
  constructor
  · rintro ⟨_, rest, rfl, ⟨c, hc, rfl⟩, hRest⟩
    exact ⟨List.cons_ne_nil c rest, List.forall_mem_cons.mpr ⟨hc, hRest⟩⟩
  · rintro ⟨hNe, hAll⟩
    obtain ⟨c, rest, rfl⟩ := List.exists_cons_of_ne_nil hNe
    rw [List.forall_mem_cons] at hAll
    exact ⟨[c], rest, rfl, ⟨c, hAll.1, rfl⟩, hAll.2⟩

theorem matches_unit_iff {letter : Char} {text : List Char} :
    (unit letter).Matches text ↔ IsUnit letter text := by
  simp only [unit, Matches, matches_oneOrMore_iff, IsUnit, beq_iff_eq]
  constructor
  · rintro ⟨digits, _, rfl, ⟨hNe, hDigits⟩, _, rfl, rfl⟩
    exact ⟨digits, hNe, hDigits, rfl⟩
  · rintro ⟨digits, hNe, hDigits, rfl⟩
    exact ⟨digits, _, rfl, ⟨hNe, hDigits⟩, letter, rfl, rfl⟩

theorem matches_optional_unit_iff {letter : Char} {text : List Char} :
    (optional (unit letter)).Matches text ↔ IsUnitOrNil letter text := by
  rw [optional, Matches, matches_unit_iff, IsUnitOrNil, or_comm]
  rfl

end TokenPattern

namespace TokenKind

open TokenPattern

theorem pattern_symbol {kind : TokenKind} (h : kind.isSymbol = true) :
    kind.pattern = literal kind.text := by
  cases kind <;> first | rfl | cases h

theorem IsUnit.ne_nil {letter : Char} {text : List Char} (h : IsUnit letter text) : text ≠ [] := by
  obtain ⟨digits, -, -, rfl⟩ := h
  simp

theorem matches_age_iff {text : List Char} : age.pattern.Matches text ↔ age.Language text := by
  simp only [pattern, Matches, matches_unit_iff, matches_optional_unit_iff, Language]
  constructor
  · rintro (⟨years, _, rfl, hYears, months, days, rfl, hMonths, hDays⟩ |
      ⟨months, days, rfl, hMonths, hDays⟩ | hDays)
    · refine ⟨?_, years, months, days, rfl, Or.inr hYears, hMonths, hDays⟩
      simp [IsUnit.ne_nil hYears]
    · refine ⟨?_, [], months, days, rfl, Or.inl rfl, Or.inr hMonths, hDays⟩
      simp [IsUnit.ne_nil hMonths]
    · exact ⟨IsUnit.ne_nil hDays, [], [], text, rfl, Or.inl rfl, Or.inl rfl, Or.inr hDays⟩
  · rintro ⟨hNe, years, months, days, rfl, hYears, hMonths, hDays⟩
    rcases hYears with rfl | hYears
    · rcases hMonths with rfl | hMonths
      · rcases hDays with rfl | hDays
        · exact absurd rfl hNe
        · exact Or.inr (Or.inr hDays)
      · exact Or.inr (Or.inl ⟨months, days, rfl, hMonths, hDays⟩)
    · exact Or.inl ⟨years, _, rfl, hYears, months, days, rfl, hMonths, hDays⟩

/-- The pattern of a kind matches the texts that are its tokens. -/
theorem matches_pattern_iff {kind : TokenKind} {text : List Char} :
    kind.pattern.Matches text ↔ kind.Language text := by
  cases kind using symbolCases with
  | name => exact matches_oneOrMore_iff
  | number => exact matches_oneOrMore_iff
  | string =>
    simp only [pattern, Matches, Language, beq_iff_eq, bne_iff_ne]
    constructor
    · rintro ⟨_, _, rfl, ⟨_, rfl, rfl⟩, body, _, rfl, hBody, _, rfl, rfl⟩
      exact ⟨body, fun hMem => hBody _ hMem rfl, rfl⟩
    · rintro ⟨body, hBody, rfl⟩
      exact ⟨['"'], _, rfl, ⟨_, rfl, rfl⟩, body, _, rfl, fun c hc h => hBody (h ▸ hc), _, rfl, rfl⟩
  | age => exact matches_age_iff
  | date => exact matches_classes_iff
  | endOfText => simp [pattern, Matches, Language]
  | symbol kind hs =>
    rw [pattern_symbol hs, language_symbol hs, literal, matches_classes_iff, forall₂_symbol]

theorem takes_measure (kind : TokenKind) (text : List Char) :
    kind.pattern.Takes text (kind.measure text) := by
  cases kind using symbolCases with
  | name => exact takes_oneOrMore isNameChar text
  | number => exact takes_oneOrMore Char.isDigit text
  | string => exact takes_string text
  | age => exact takes_age text
  | date => exact takes_classes (by simp) text
  | endOfText => cases text <;> rfl
  | symbol kind hs =>
    rw [pattern_symbol hs, measure_symbol hs]
    refine takes_classes ?_ text
    cases kind <;> decide

/-- A kind measures the preferred match of its pattern. -/
theorem measure_pattern (kind : TokenKind) (text : List Char) :
    kind.pattern.measure text = kind.measure text :=
  (kind.takes_measure text).measure_eq (kind.measure_le text)

/-- No match of a kind's pattern is longer than the preferred one. -/
theorem length_le_measure_pattern {kind : TokenKind} {token : List Char}
    (h : kind.pattern.Matches token) (rest : List Char) :
    token.length ≤ kind.pattern.measure (token ++ rest) := by
  rw [measure_pattern]
  exact length_le_measure (matches_pattern_iff.mp h) rest

end TokenKind

end PostSieve.Rule
