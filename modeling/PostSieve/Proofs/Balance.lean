import PostSieve.Proofs.Grammar
import PostSieve.Rule.Parens

/-! The balance of parentheses: the search of a text for one without its partner comes to the same
as one of its tokens, and a phrase is balanced. -/

namespace PostSieve.Rule

/-! ### The search through a text, token by token -/

/-- The characters that the search for an unbalanced parenthesis stops at. -/
def isDelimiter (c : Char) : Bool := c == '"' || c == '(' || c == ')'

theorem isDelimiter_toNat {c : Char} (h : isDelimiter c = true) :
    c.toNat = 34 ∨ c.toNat = 40 ∨ c.toNat = 41 := by
  simp only [isDelimiter, Bool.or_eq_true, beq_iff_eq] at h
  rcases h with (rfl | rfl) | rfl <;> decide

theorem isDelimiter_of_isBlank {c : Char} (h : isBlank c = true) : isDelimiter c = false := by
  have := isBlank_toNat h
  refine Bool.eq_false_iff.mpr fun hDelimiter => ?_
  have := isDelimiter_toNat hDelimiter
  omega

/-- Only parentheses and strings have delimiters in their tokens. -/
theorem TokenKind.Language.isDelimiter_eq_false {kind : TokenKind} {text : List Char}
    (h : kind.Language text) (hString : kind ≠ string) (hOpen : kind ≠ openParen)
    (hClose : kind ≠ closeParen) : ∀ c ∈ text, isDelimiter c = false := by
  have hNumeric (hLead : kind.lead = .digit) : ∀ c ∈ text, isDelimiter c = false := by
    intro c hc
    have hChar := h.isNumericChar hLead hc
    refine Bool.eq_false_iff.mpr fun hDelimiter => ?_
    have hNat := isDelimiter_toNat hDelimiter
    simp only [TokenKind.isNumericChar, Bool.or_eq_true, isDigit_iff, isAlpha_iff,
      beq_iff_eq] at hChar
    rcases hChar with (hChar | hChar) | rfl
    · omega
    · omega
    · exact absurd hDelimiter (by decide)
  cases kind using symbolCases with
  | name =>
    intro c hc
    have hChar := isNameChar_iff.mp (h.2 c hc)
    refine Bool.eq_false_iff.mpr fun hDelimiter => ?_
    have := isDelimiter_toNat hDelimiter
    rw [isAlpha_iff] at hChar
    omega
  | number => exact hNumeric rfl
  | age => exact hNumeric rfl
  | date => exact hNumeric rfl
  | string => exact absurd rfl hString
  | endOfText => exact h.elim
  | symbol kind hs =>
    have hAll : kind.text.toList.all (!isDelimiter ·) = true := by
      cases kind <;> first | decide | exact absurd rfl hOpen | exact absurd rfl hClose
    rw [(language_symbol hs).mp h]
    intro c hc
    simpa using List.all_eq_true.mp hAll c hc

theorem findUnbalanced_cons (opened : List Nat) (quoted : Bool) (position : Nat) (c : Char)
    (text : List Char) : findUnbalanced opened quoted position (c :: text) =
      if c = '"' then findUnbalanced opened (!quoted) (position + c.utf8Size) text
      else if c = '(' ∧ !quoted then
        findUnbalanced (position :: opened) quoted (position + c.utf8Size) text
      else if c = ')' ∧ !quoted then
        match opened with
        | [] => some (.unbalancedParen ')' position)
        | _ :: opened => findUnbalanced opened quoted (position + c.utf8Size) text
      else findUnbalanced opened quoted (position + c.utf8Size) text :=
  findUnbalanced.eq_def opened quoted position (c :: text)

theorem findUnbalanced_skip {opened : List Nat} {quoted : Bool} {rest : List Char} :
    ∀ {skipped : List Char} {position : Nat}, (∀ c ∈ skipped, isDelimiter c = false) →
      findUnbalanced opened quoted position (skipped ++ rest) =
        findUnbalanced opened quoted (position + byteLength skipped) rest
  | [], _, _ => rfl
  | c :: skipped, position, h => by
    rw [List.forall_mem_cons] at h
    have hc := h.1
    simp only [isDelimiter, Bool.or_eq_false_iff, beq_eq_false_iff_ne] at hc
    rw [List.cons_append, findUnbalanced_cons]
    simp only [if_neg hc.1.1, hc.1.2, hc.2, false_and, if_false]
    rw [findUnbalanced_skip h.2, byteLength_cons, Nat.add_assoc]

theorem findUnbalanced_quoted {opened : List Nat} {rest : List Char} :
    ∀ {body : List Char} {position : Nat}, '"' ∉ body →
      findUnbalanced opened true position (body ++ rest) =
        findUnbalanced opened true (position + byteLength body) rest
  | [], _, _ => rfl
  | c :: body, position, h => by
    rw [List.mem_cons, not_or] at h
    rw [List.cons_append, findUnbalanced_cons]
    simp only [if_neg (Ne.symm h.1), Bool.not_true, Bool.false_eq_true, and_false, if_false]
    rw [findUnbalanced_quoted h.2, byteLength_cons, Nat.add_assoc]

theorem findUnbalanced_string {opened : List Nat} {text : List Char}
    (h : TokenKind.string.Language text) (position : Nat) (rest : List Char) :
    findUnbalanced opened false position (text ++ rest) =
      findUnbalanced opened false (position + byteLength text) rest := by
  obtain ⟨body, hBody, rfl⟩ := h
  rw [List.cons_append, List.append_assoc, findUnbalanced_cons, if_pos rfl, Bool.not_false,
    findUnbalanced_quoted hBody, List.cons_append, findUnbalanced_cons, if_pos rfl]
  simp only [List.nil_append, Bool.not_true, byteLength_cons, byteLength_append,
    byteLength_nil, Nat.add_assoc, Nat.add_zero]

/-- Whether a character stands at a byte of a text that itself lies at byte `position`. -/
def StandsAt (position : Nat) (text : List Char) (c : Char) (place : Nat) : Prop :=
  ∃ before after, text = before ++ c :: after ∧ place = position + byteLength before

theorem StandsAt.cons {position place : Nat} {text : List Char} {a c : Char}
    (h : StandsAt (position + a.utf8Size) text c place) :
    StandsAt position (a :: text) c place := by
  obtain ⟨before, after, rfl, rfl⟩ := h
  exact ⟨a :: before, after, rfl, by rw [byteLength_cons, Nat.add_assoc]⟩

/-- What the search finds is a parenthesis, where it stands or one that was open before. -/
theorem findUnbalanced_eq_some {opened : List Nat} {quoted : Bool} {position : Nat}
    {text : List Char} {e : RuleError} (h : findUnbalanced opened quoted position text = some e) :
    ∃ paren place, e = .unbalancedParen paren place ∧
      (StandsAt position text paren place ∨ paren = '(' ∧ place ∈ opened) := by
  induction text generalizing opened quoted position with
  | nil =>
    obtain ⟨place, hPlace, rfl⟩ := Option.map_eq_some_iff.mp h
    exact ⟨'(', place, rfl, .inr ⟨rfl, List.mem_of_mem_head? hPlace⟩⟩
  | cons c text ih =>
    -- What is found behind the first character was there, or open before or at that character.
    have hOn {opened : List Nat} {quoted : Bool}
        (h : findUnbalanced opened quoted (position + c.utf8Size) text = some e) :
        ∃ paren place, e = .unbalancedParen paren place ∧
          (StandsAt position (c :: text) paren place ∨ paren = '(' ∧ place ∈ opened) := by
      obtain ⟨paren, place, he, hPlace⟩ := ih h
      exact ⟨paren, place, he, hPlace.imp_left .cons⟩
    have hHere : StandsAt position (c :: text) c position := ⟨[], text, rfl, rfl⟩
    rw [findUnbalanced_cons] at h
    split at h
    · exact hOn h
    split at h
    case isTrue hOpen =>
      obtain ⟨paren, place, he, hPlace | ⟨rfl, hPlace⟩⟩ := hOn h
      · exact ⟨paren, place, he, .inl hPlace⟩
      · rcases List.mem_cons.mp hPlace with rfl | hPlace
        · exact ⟨'(', place, he, .inl (hOpen.1 ▸ hHere)⟩
        · exact ⟨'(', place, he, .inr ⟨rfl, hPlace⟩⟩
    split at h
    case isTrue hClose =>
      cases opened with
      | nil =>
        cases h
        exact ⟨')', position, rfl, .inl (hClose.1 ▸ hHere)⟩
      | cons outer opened =>
        obtain ⟨paren, place, he, hPlace⟩ := hOn h
        exact ⟨paren, place, he, hPlace.imp_right (.imp_right (List.mem_cons_of_mem outer))⟩
    · exact hOn h

/-- The error of unbalanced parentheses is about a parenthesis in the text. -/
theorem checkParens_eq_error {text : String} {e : RuleError} (h : checkParens text = .error e) :
    ∃ paren place, e = .unbalancedParen paren place ∧ StandsAt 0 text.toList paren place := by
  unfold checkParens at h
  split at h
  · rename_i hFound
    cases h
    obtain ⟨paren, place, he, hPlace | ⟨-, hPlace⟩⟩ := findUnbalanced_eq_some hFound
    · exact ⟨paren, place, he, hPlace⟩
    · cases hPlace
  · cases h

section Token

variable {token : Token} {rest : List Char} {opened : List Nat}

theorem findUnbalanced_openParen (hLexical : token.word.IsLexical)
    (hLength : token.length = byteLength token.value.toList) (hKind : token.kind = .openParen) :
    findUnbalanced opened false token.position (token.value.toList ++ rest) =
      findUnbalanced (token.position :: opened) false token.stop rest := by
  have hText : token.kind.Language token.value.toList := hLexical
  rw [hKind, TokenKind.language_symbol rfl] at hText
  rw [Token.stop, hLength, hText]
  exact findUnbalanced_cons opened false token.position '(' rest

theorem findUnbalanced_closeParen (hLexical : token.word.IsLexical)
    (hLength : token.length = byteLength token.value.toList) (hKind : token.kind = .closeParen) :
    findUnbalanced opened false token.position (token.value.toList ++ rest) =
      match opened with
      | [] => some (.unbalancedParen ')' token.position)
      | _ :: opened => findUnbalanced opened false token.stop rest := by
  have hText : token.kind.Language token.value.toList := hLexical
  rw [hKind, TokenKind.language_symbol rfl] at hText
  rw [Token.stop, hLength, hText]
  exact findUnbalanced_cons opened false token.position ')' rest

/-- A token that is no parenthesis is passed over, a string with the parentheses in it. -/
theorem findUnbalanced_other (hLexical : token.word.IsLexical)
    (hLength : token.length = byteLength token.value.toList) (hOpen : token.kind ≠ .openParen)
    (hClose : token.kind ≠ .closeParen) :
    findUnbalanced opened false token.position (token.value.toList ++ rest) =
      findUnbalanced opened false token.stop rest := by
  rw [Token.stop, hLength]
  by_cases hString : token.kind = .string
  · rw [Word.IsLexical, Token.word, hString] at hLexical
    exact findUnbalanced_string hLexical token.position rest
  · exact findUnbalanced_skip (hLexical.isDelimiter_eq_false hString hOpen hClose)

end Token

/-! ### The search through the tokens -/

/-- Looks for an unbalanced parenthesis among tokens, `opened` being the places of those still
open. -/
def unmatchedParen (opened : List Nat) : List Token → Option RuleError
  | [] => opened.head?.map (.unbalancedParen '(' ·)
  | token :: tokens =>
    if token.kind = .openParen then unmatchedParen (token.position :: opened) tokens
    else if token.kind = .closeParen then
      match opened with
      | [] => some (.unbalancedParen ')' token.position)
      | _ :: opened => unmatchedParen opened tokens
    else unmatchedParen opened tokens

theorem unmatchedParen_openParen {token : Token} (h : token.kind = .openParen)
    (opened : List Nat) (tokens : List Token) :
    unmatchedParen opened (token :: tokens) = unmatchedParen (token.position :: opened) tokens := by
  rw [unmatchedParen.eq_def]
  exact if_pos h

theorem unmatchedParen_closeParen {token : Token} (h : token.kind = .closeParen)
    (opened : List Nat) (tokens : List Token) :
    unmatchedParen opened (token :: tokens) =
      match opened with
      | [] => some (.unbalancedParen ')' token.position)
      | _ :: opened => unmatchedParen opened tokens := by
  rw [unmatchedParen.eq_def]
  simp [h]

theorem unmatchedParen_other {token : Token} (hOpen : token.kind ≠ .openParen)
    (hClose : token.kind ≠ .closeParen) (opened : List Nat) (tokens : List Token) :
    unmatchedParen opened (token :: tokens) = unmatchedParen opened tokens := by
  rw [unmatchedParen.eq_def]
  simp [hOpen, hClose]

/-- Both searches go on alike behind a token if they do with what comes after it. -/
theorem findUnbalanced_token {token : Token} {rest : List Char} {tokens : List Token}
    (hLexical : token.word.IsLexical) (hLength : token.length = byteLength token.value.toList)
    (hRest : ∀ opened, findUnbalanced opened false token.stop rest = unmatchedParen opened tokens)
    (opened : List Nat) :
    findUnbalanced opened false token.position (token.value.toList ++ rest) =
      unmatchedParen opened (token :: tokens) := by
  by_cases hOpen : token.kind = .openParen
  · rw [findUnbalanced_openParen hLexical hLength hOpen, unmatchedParen_openParen hOpen, hRest]
  by_cases hClose : token.kind = .closeParen
  · rw [findUnbalanced_closeParen hLexical hLength hClose, unmatchedParen_closeParen hClose]
    cases opened with
    | nil => rfl
    | cons place opened => exact hRest opened
  rw [findUnbalanced_other hLexical hLength hOpen hClose, unmatchedParen_other hOpen hClose, hRest]

/-- In a text that is tokens to its end, the search finds what it finds among the tokens. -/
theorem findUnbalanced_eq_unmatchedParen {position stop : Nat} {text : List Char}
    (h : (TokenStream.scanFrom TokenKind.scanned position text).ending = .endOfText stop)
    (opened : List Nat) : findUnbalanced opened false position text =
      unmatchedParen opened (TokenStream.scanFrom TokenKind.scanned position text).tokens := by
  fun_induction TokenStream.scanFrom TokenKind.scanned position text generalizing opened with
  | case1 position text ending hScan =>
    obtain rfl : ending = .endOfText stop := h
    have hBlank := (scan_eq_endOfText_iff.mp hScan).1
    rw [← List.append_nil text,
      findUnbalanced_skip fun c hc => isDelimiter_of_isBlank (hBlank c hc)]
    rfl
  | case2 position text token rest hScan _ stream ih =>
    obtain ⟨gap, hGap, rfl, hLanguage, hPosition, hLength⟩ := scan_token hScan
    rw [findUnbalanced_skip fun c hc => isDelimiter_of_isBlank (hGap c hc), ← hPosition]
    exact findUnbalanced_token hLanguage hLength (fun opened => ih h opened) opened

/-! ### Phrases are balanced -/

theorem unmatchedParen_skip {used : List Token}
    (h : ∀ token ∈ used, token.kind ≠ .openParen ∧ token.kind ≠ .closeParen) (opened : List Nat)
    (rest : List Token) : unmatchedParen opened (used ++ rest) = unmatchedParen opened rest := by
  induction used with
  | nil => rfl
  | cons token used ih =>
    rw [List.forall_mem_cons] at h
    rw [List.cons_append, unmatchedParen_other h.1.1 h.1.2, ih h.2]

theorem Condition.not_paren_of_mem_words {c : Condition} {word : Word} (h : word ∈ c.words) :
    word.kind ≠ .openParen ∧ word.kind ≠ .closeParen := by
  have hName : TokenKind.name ≠ .openParen ∧ TokenKind.name ≠ .closeParen := by decide
  have hOp (op : TokenKind) (hOp : op.isOperator = true) : op ≠ .openParen ∧ op ≠ .closeParen := by
    constructor <;> rintro rfl <;> cases hOp
  have hLiteral (literal : TokenKind) (hLiteral : literal.isLiteral = true) :
      literal ≠ .openParen ∧ literal ≠ .closeParen := by
    constructor <;> rintro rfl <;> cases hLiteral
  simp only [words, List.mem_cons, List.not_mem_nil, or_false] at h
  rcases h with rfl | rfl | rfl
  · exact hName
  · exact hOp c.op c.isOperator
  · exact hLiteral _ c.isLiteral

/-- Behind a phrase the same parentheses are open as in front of it. -/
theorem Phrase.unmatchedParen_append {level : Level} (p : Phrase level) {used : List Token}
    (h : used.map Token.word = p.words) (opened : List Nat) (rest : List Token) :
    unmatchedParen opened (used ++ rest) = unmatchedParen opened rest := by
  induction p generalizing used opened rest with
  | condition c =>
    refine unmatchedParen_skip (fun token hToken => ?_) opened rest
    have hMem : token.word ∈ c.words := by
      rw [show c.words = used.map Token.word from h.symm]
      exact List.mem_map_of_mem hToken
    exact c.not_paren_of_mem_words hMem
  | group inner ih =>
    obtain ⟨first, used, rfl, hFirst, h⟩ := List.map_eq_cons_iff.mp h
    obtain ⟨used, _, rfl, hInner, h⟩ := List.map_eq_append_iff.mp h
    obtain ⟨last, rfl, hLast⟩ := List.map_eq_singleton_iff.mp h
    rw [List.cons_append, unmatchedParen_openParen (congrArg Word.kind hFirst),
      List.append_assoc, ih hInner, List.singleton_append,
      unmatchedParen_closeParen (congrArg Word.kind hLast)]
  | single operand ih => exact ih h opened rest
  | joined first join others ihFirst ihOthers =>
    obtain ⟨used, _, rfl, hFirst, h⟩ := List.map_eq_append_iff.mp h
    obtain ⟨token, used', rfl, hToken, hOthers⟩ := List.map_eq_cons_iff.mp h
    have hKind : token.kind = join.token := congrArg Word.kind hToken
    rw [List.append_assoc, ihFirst hFirst, List.cons_append, unmatchedParen_other,
      ihOthers hOthers]
    · rw [hKind]
      cases join <;> decide
    · rw [hKind]
      cases join <;> decide

/-- The parentheses of a text whose words are a phrase are balanced. -/
theorem Phrase.checkParens_eq_ok {text : String} {p : Phrase .chain}
    (h : wordsOf text = .ok p.words) : checkParens text = .ok () := by
  obtain ⟨⟨stop, hEnding⟩, hWords⟩ := wordsOf_eq_ok_iff.mp h
  have hNone : findUnbalanced [] false 0 text.toList = none := by
    rw [findUnbalanced_eq_unmatchedParen hEnding, ← List.append_nil (TokenStream.tokens _)]
    exact p.unmatchedParen_append hWords [] []
  rw [checkParens, hNone]

end PostSieve.Rule
