import PostSieve.Proofs.Timestamps
import PostSieve.Rule.Tree

/-! Line breaks: which texts written for the tests of a rule stay on one line. Numbers, instants and
quoted texts do; only a pattern breaks lines, as its source does. -/

namespace PostSieve

/-- The number of line breaks in a text. -/
def lineBreaks (text : String) : Nat := text.toList.count '\n'

@[simp] theorem lineBreaks_append (a b : String) :
    lineBreaks (a ++ b) = lineBreaks a + lineBreaks b := by
  simp [lineBreaks]

theorem lineBreaks_append_eq_zero {a b : String} (ha : lineBreaks a = 0) (hb : lineBreaks b = 0) :
    lineBreaks (a ++ b) = 0 := by
  rw [lineBreaks_append, ha, hb]

theorem lineBreaks_eq_zero_iff {text : String} : lineBreaks text = 0 ↔ '\n' ∉ text.toList :=
  List.count_eq_zero

@[simp] theorem lineBreaks_join_cons (text : String) (texts : List String) :
    lineBreaks (String.join (text :: texts)) =
      lineBreaks text + lineBreaks (String.join texts) := by
  rw [String.join_cons, lineBreaks_append]

theorem lineBreaks_join_append (texts others : List String) :
    lineBreaks (String.join (texts ++ others)) =
      lineBreaks (String.join texts) + lineBreaks (String.join others) := by
  rw [String.join_append, lineBreaks_append]

theorem lineBreaks_join_eq_zero_iff {texts : List String} :
    lineBreaks (String.join texts) = 0 ↔ ∀ text ∈ texts, lineBreaks text = 0 := by
  induction texts with
  | nil => exact ⟨fun _ => List.forall_mem_nil _, fun _ => rfl⟩
  | cons text texts ih => rw [lineBreaks_join_cons, Nat.add_eq_zero_iff, ih, List.forall_mem_cons]

theorem lineBreaks_intercalate {separator : String} (h : lineBreaks separator = 0)
    (texts : List String) :
    lineBreaks (separator.intercalate texts) = lineBreaks (String.join texts) := by
  induction texts with
  | nil => rfl
  | cons text texts ih =>
    cases texts with
    | nil => simp
    | cons next texts =>
      rw [String.intercalate_cons_cons, lineBreaks_append, lineBreaks_append, ih, h,
        lineBreaks_join_cons text, Nat.add_zero]

/-! ### Numbers and instants -/

/-- Digits do not break a line. -/
theorem lineBreaks_digits {text : String} (h : ∀ c ∈ text.toList, c.isDigit = true) :
    lineBreaks text = 0 := by
  rw [lineBreaks_eq_zero_iff]
  intro hMem
  exact absurd (h _ hMem) (by decide)

@[simp] theorem lineBreaks_toString (n : Nat) : lineBreaks (toString n) = 0 :=
  lineBreaks_digits fun _ => isDigit_of_mem_toString

@[simp] theorem lineBreaks_padded (width n : Nat) : lineBreaks (padded width n) = 0 :=
  lineBreaks_digits fun _ => isDigit_of_mem_padded

namespace Calendar

theorem lineBreaks_yearText (year : Int) : lineBreaks (yearText year) = 0 := by
  rw [yearText]
  split
  · exact lineBreaks_padded _ _
  · rw [lineBreaks_append, lineBreaks_padded]
    split <;> rfl

theorem lineBreaks_fractionText (nanos : Nat) : lineBreaks (fractionText nanos) = 0 := by
  rw [fractionText]
  split_ifs
  · rfl
  all_goals
    rw [lineBreaks_append, lineBreaks_padded]
    rfl

theorem Instant.lineBreaks_text (t : Instant) : lineBreaks t.text = 0 := by
  have hDash : lineBreaks "-" = 0 := rfl
  have hMark : lineBreaks "T" = 0 := rfl
  have hColon : lineBreaks ":" = 0 := rfl
  have hOffset : lineBreaks "+00:00" = 0 := rfl
  simp only [text, clockText, lineBreaks_append, lineBreaks_padded, lineBreaks_yearText,
    lineBreaks_fractionText, hDash, hMark, hColon, hOffset]

end Calendar

/-! ### Quoted texts -/

theorem not_mem_toDigits_sixteen (n : Nat) : '\n' ∉ Nat.toDigits 16 n := by
  induction n using Nat.strongRecOn with
  | ind n ih =>
    have hDigit : ∀ k < 16, '\n' ≠ Nat.digitChar k := by decide
    by_cases hLt : n < 16
    · rw [Nat.toDigits_of_lt_base hLt, List.mem_singleton]
      exact hDigit n hLt
    · rw [Nat.toDigits_of_base_le (by decide) (by omega), List.mem_append, List.mem_singleton]
      rintro (hMem | hEq)
      · exact ih (n / 16) (by omega) hMem
      · exact hDigit (n % 16) (by omega) hEq

theorem lineBreaks_quotedChar (c : Char) : lineBreaks (quotedChar c) = 0 := by
  unfold quotedChar
  split_ifs with hNull hTab hReturn hBreak hQuote
  iterate 4 rfl
  · rw [lineBreaks_eq_zero_iff, String.toList_push]
    rcases hQuote with rfl | rfl <;> decide
  · rw [lineBreaks_eq_zero_iff]
    simpa using Ne.symm hBreak
  · have hCode : lineBreaks (hexText c.toNat) = 0 := by
      rw [lineBreaks_eq_zero_iff, hexText, String.toList_ofList]
      exact not_mem_toDigits_sixteen _
    rw [lineBreaks_append, lineBreaks_append, hCode]
    rfl
  · rw [lineBreaks_eq_zero_iff]
    simpa using Ne.symm hBreak

/-- A text in quotes stays on one line, whatever it is. -/
theorem lineBreaks_quoted (text : String) : lineBreaks (quoted text) = 0 := by
  have hChars : lineBreaks (String.join (text.toList.map quotedChar)) = 0 := by
    rw [lineBreaks_join_eq_zero_iff, List.forall_mem_map]
    exact fun c _ => lineBreaks_quotedChar c
  rw [quoted, lineBreaks_append, lineBreaks_append, hChars]
  rfl

namespace Rule

open Calendar (Instant)

/-! ### The patterns of a rule -/

/-- The pattern that criteria search for, if they search for one. -/
def Criteria.patterns (tests : Criteria) : List Pattern :=
  (tests.matching.map TextTest.pattern).toList

/-- The patterns of a tree, from left to right. -/
def Tree.patterns : Tree → List Pattern
  | condition _ _ tests => tests.patterns
  | join _ left right => left.patterns ++ right.patterns

/-- The number of line breaks in the sources of patterns. -/
def patternBreaks (patterns : List Pattern) : Nat :=
  lineBreaks (String.join (patterns.map Pattern.source))

theorem patternBreaks_append (patterns others : List Pattern) :
    patternBreaks (patterns ++ others) = patternBreaks patterns + patternBreaks others := by
  rw [patternBreaks, patternBreaks, patternBreaks, List.map_append, lineBreaks_join_append]

theorem patternBreaks_eq_zero_iff {patterns : List Pattern} :
    patternBreaks patterns = 0 ↔ ∀ pattern ∈ patterns, '\n' ∉ pattern.source.toList := by
  rw [patternBreaks, lineBreaks_join_eq_zero_iff, List.forall_mem_map]
  exact forall₂_congr fun pattern _ => lineBreaks_eq_zero_iff

theorem TokenKind.lineBreaks_text (kind : TokenKind) : lineBreaks kind.text = 0 := by
  cases kind <;> rfl

theorem Field.lineBreaks_name (field : Field) : lineBreaks field.name = 0 := by
  cases field <;> rfl

theorem Join.lineBreaks_text (op : Join) : lineBreaks op.text = 0 := by cases op <;> rfl

/-- A test that is written without line breaks adds none. -/
theorem lineBreaks_part {α : Type} {part : α → String} (h : ∀ a, lineBreaks (part a) = 0)
    (test : Option α) : lineBreaks (String.join (test.map part).toList) = 0 := by
  cases test with
  | none => rfl
  | some a =>
    rw [lineBreaks_join_eq_zero_iff]
    exact List.forall_mem_singleton.mpr (h a)

theorem TextTest.lineBreaks_text (test : TextTest) :
    lineBreaks test.text = lineBreaks test.pattern.source := by
  have hLabel (op : TokenKind) : lineBreaks ("text " ++ op.text ++ " /") = 0 :=
    lineBreaks_append_eq_zero (lineBreaks_append_eq_zero rfl op.lineBreaks_text) rfl
  show lineBreaks ("text " ++ TokenKind.text _ ++ " /" ++ test.pattern.source ++ "/") = _
  rw [lineBreaks_append, lineBreaks_append, hLabel, Nat.zero_add]
  rfl

theorem CountBound.lineBreaks_text {label : String} (hLabel : lineBreaks label = 0)
    (b : CountBound) : lineBreaks s!"{label}{b.comparator.text} {b.threshold.toNat}" = 0 := by
  have hComparator := lineBreaks_append_eq_zero hLabel b.comparator.token.lineBreaks_text
  exact lineBreaks_append_eq_zero (lineBreaks_append_eq_zero hComparator rfl)
    (lineBreaks_toString b.threshold.toNat)

theorem Criteria.lineBreaks_parts (tests : Criteria) :
    lineBreaks (String.join tests.parts) = patternBreaks tests.patterns := by
  have hBefore (t : Instant) : lineBreaks s!"created < {t.text}" = 0 :=
    lineBreaks_append_eq_zero rfl t.lineBreaks_text
  have hAfter (t : Instant) : lineBreaks s!"created > {t.text}" = 0 :=
    lineBreaks_append_eq_zero rfl t.lineBreaks_text
  have hContaining (part : String) : lineBreaks s!"text contains {quoted part}" = 0 :=
    lineBreaks_append_eq_zero rfl (lineBreaks_quoted part)
  have hLikes := @CountBound.lineBreaks_text "likes " rfl
  have hRetweets := @CountBound.lineBreaks_text "retweets " rfl
  simp only [parts, lineBreaks_join_append, lineBreaks_part hBefore, lineBreaks_part hAfter,
    lineBreaks_part hContaining, lineBreaks_part hLikes, lineBreaks_part hRetweets, Nat.add_zero,
    Nat.zero_add]
  rw [patterns, patternBreaks]
  cases tests.matching with
  | none => rfl
  | some test =>
    show lineBreaks (String.join [test.text]) = lineBreaks (String.join [test.pattern.source])
    rw [lineBreaks_join_cons, lineBreaks_join_cons, test.lineBreaks_text]

/-- Criteria are written with the line breaks of their pattern and no others. -/
theorem Criteria.lineBreaks_text (tests : Criteria) :
    lineBreaks tests.text = patternBreaks tests.patterns := by
  rw [text]
  split
  · rename_i hEmpty
    simp only [isEmpty, Bool.and_eq_true, Option.isNone_iff_eq_none] at hEmpty
    obtain ⟨⟨⟨⟨-, hMatching⟩, -⟩, -⟩, -⟩ := hEmpty
    rw [patterns, hMatching]
    rfl
  · rw [lineBreaks_intercalate rfl, lineBreaks_parts]

end Rule

end PostSieve
