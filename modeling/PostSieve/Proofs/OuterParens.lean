import PostSieve.Proofs.Balance

/-! The parentheses of a text: those outside its quotes are those among its tokens, so that they are
as many in the text as among the tokens and lie as deep in one another. -/

namespace PostSieve.Rule

/-- The parentheses outside the quotes of a text, in order; `quoted` tells whether a quote is open
in front of it. -/
def outerParens (quoted : Bool) : List Char → List TokenKind
  | [] => []
  | c :: text =>
    if c = '"' then outerParens (!quoted) text
    else if c = '(' ∧ !quoted then .openParen :: outerParens quoted text
    else if c = ')' ∧ !quoted then .closeParen :: outerParens quoted text
    else outerParens quoted text

def TokenKind.isParen : TokenKind → Bool
  | openParen | closeParen => true
  | _ => false

section Characters

variable {rest : List Char}

theorem outerParens_skip {quoted : Bool} {skipped : List Char}
    (h : ∀ c ∈ skipped, isDelimiter c = false) :
    outerParens quoted (skipped ++ rest) = outerParens quoted rest := by
  induction skipped with
  | nil => rfl
  | cons c skipped ih =>
    rw [List.forall_mem_cons] at h
    have hc := h.1
    simp only [isDelimiter, Bool.or_eq_false_iff, beq_eq_false_iff_ne] at hc
    simp [outerParens, hc, ih h.2]

theorem outerParens_quoted {body : List Char} (h : '"' ∉ body) :
    outerParens true (body ++ '"' :: rest) = outerParens false rest := by
  induction body with
  | nil => rfl
  | cons c body ih =>
    rw [List.mem_cons, not_or] at h
    simp [outerParens, Ne.symm h.1, ih h.2]

/-- A token gives the parenthesis that it is, if it is one; a string gives none of those in it. -/
theorem outerParens_token {kind : TokenKind} {text : List Char} (h : kind.Language text) :
    outerParens false (text ++ rest) =
      [kind].filter TokenKind.isParen ++ outerParens false rest := by
  by_cases hString : kind = .string
  · subst hString
    obtain ⟨body, hBody, rfl⟩ := h
    rw [List.cons_append, List.append_assoc]
    exact outerParens_quoted hBody
  by_cases hOpen : kind = .openParen
  · subst hOpen
    rw [(TokenKind.language_symbol rfl).mp h]
    rfl
  by_cases hClose : kind = .closeParen
  · subst hClose
    rw [(TokenKind.language_symbol rfl).mp h]
    rfl
  have hNone : kind.isParen = false := by
    cases kind <;> first | rfl | exact absurd rfl hOpen | exact absurd rfl hClose
  rw [outerParens_skip (h.isDelimiter_eq_false hString hOpen hClose),
    List.filter_singleton, hNone]
  rfl

end Characters

/-- In a text that is tokens to its end, the parentheses outside the quotes are those among the
tokens. -/
theorem outerParens_eq_filter {position stop : Nat} {text : List Char}
    (h : (TokenStream.scanFrom TokenKind.scanned position text).ending = .endOfText stop) :
    outerParens false text =
      ((TokenStream.scanFrom TokenKind.scanned position text).tokens.map Token.kind).filter
        TokenKind.isParen := by
  fun_induction TokenStream.scanFrom TokenKind.scanned position text with
  | case1 position text ending hScan =>
    obtain rfl : ending = .endOfText stop := h
    have hBlank := (scan_eq_endOfText_iff.mp hScan).1
    rw [← List.append_nil text, outerParens_skip fun c hc => isDelimiter_of_isBlank (hBlank c hc)]
    rfl
  | case2 position text token rest hScan _ stream ih =>
    obtain ⟨gap, hGap, rfl, hLanguage, -, -⟩ := scan_token hScan
    rw [outerParens_skip fun c hc => isDelimiter_of_isBlank (hGap c hc),
      outerParens_token hLanguage, ih h, ← List.filter_append]
    rfl

/-! ### Counting and nesting -/

variable {text : String} {words : List Word}

theorem outerParens_of_wordsOf (h : wordsOf text = .ok words) :
    outerParens false text.toList = (words.map Word.kind).filter TokenKind.isParen := by
  obtain ⟨⟨stop, hEnding⟩, -⟩ := wordsOf_eq_ok_iff.mp h
  rw [outerParens_eq_filter hEnding, ← kinds_of_wordsOf h]
  rfl

theorem count_openParen_of_wordsOf (h : wordsOf text = .ok words) :
    (outerParens false text.toList).count .openParen = (words.map Word.kind).count .openParen := by
  rw [outerParens_of_wordsOf h, List.count_filter rfl]

theorem TokenKind.openedAfter_of_not_isParen {kind : TokenKind} (h : ¬ kind.isParen = true)
    (opened : Nat) : kind.openedAfter opened = opened := by
  cases kind <;> first | rfl | exact absurd rfl h

/-- Words that are no parentheses nest nothing. -/
theorem nesting_filter (opened : Nat) (kinds : List TokenKind) :
    nesting opened (kinds.filter TokenKind.isParen) = nesting opened kinds := by
  induction kinds generalizing opened with
  | nil => rfl
  | cons kind kinds ih =>
    by_cases hParen : kind.isParen = true
    · rw [List.filter_cons_of_pos hParen, nesting, nesting, ih]
    · rw [List.filter_cons_of_neg hParen, ih, nesting,
        TokenKind.openedAfter_of_not_isParen hParen, Nat.max_eq_right (le_nesting _ _)]

theorem nesting_of_wordsOf (h : wordsOf text = .ok words) :
    nesting 0 (outerParens false text.toList) = nesting 0 (words.map Word.kind) := by
  rw [outerParens_of_wordsOf h, nesting_filter]

example : outerParens false "(text ~ \"a (b)\")".toList = [.openParen, .closeParen] := by decide

end PostSieve.Rule
