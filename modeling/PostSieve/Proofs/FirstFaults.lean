import PostSieve.Proofs.GrammarErrors
import PostSieve.Proofs.Tiling

/-! Which fault of a rule is reported: none that stands behind a condition that means nothing, save
for text that is no token and comes next behind that condition. -/

namespace PostSieve.Rule

/-! ### Tokens in order -/

namespace Tiles

variable {text : String} {start stop : Nat} {tokens : List Token} {token other : Token}

theorem position_lt_stop (h : Tiles text start tokens stop) (hMem : token ∈ tokens) :
    token.position < token.stop := by
  have hPos := (h.isMunched hMem).length_pos
  rw [Token.stop]
  omega

/-- Tokens begin one behind another. -/
theorem head_le (h : Tiles text start (token :: tokens) stop) (hMem : other ∈ token :: tokens) :
    token.position ≤ other.position := by
  have hStop := h.position_lt_stop List.mem_cons_self
  rcases List.mem_cons.mp hMem with rfl | hLater
  · exact Nat.le_refl _
  · have hLe := h.2.2.le_position hLater
    omega

end Tiles

theorem TokenKind.isOperator_of_isLiteral {kind : TokenKind} (h : kind.isLiteral = true) :
    kind.isOperator = false := by
  cases kind <;> first | rfl | cases h

/-- No literal that stands behind what has been read ends in front of the fault. -/
theorem FaultAt.position_lt_stop {options : Options} {conditions start stop : Nat}
    {rest : TokenStream} {place : Place} {e : RuleError} {text : String} {literal : Token}
    (h : FaultAt options conditions rest place e) (hTiles : Tiles text start rest.tokens stop)
    (hMem : literal ∈ rest.tokens) (hLiteral : literal.kind.isLiteral = true) :
    e.position < literal.stop := by
  have hStop := hTiles.position_lt_stop hMem
  have hCurrent : rest.current.position ≤ literal.position := by
    obtain ⟨tokens, ending⟩ := rest
    obtain ⟨token, tokens, rfl⟩ := List.exists_cons_of_ne_nil (List.ne_nil_of_mem hMem)
    exact hTiles.head_le hMem
  cases h with
  | unrecognized hTokens =>
    rw [hTokens] at hMem
    cases hMem
  | unexpected => exact Nat.lt_of_le_of_lt hCurrent hStop
  | tooDeep => exact Nat.lt_of_le_of_lt hCurrent hStop
  | tooMany => exact Nat.lt_of_le_of_lt hCurrent hStop
  | @invalid _ name op last token tokens _ hTokens hName hOp hLast hToken _ =>
    rw [hTokens] at hTiles hMem
    have hTilesOp := hTiles.2.2
    have hTilesLast := hTilesOp.2.2
    -- The fault is no later than the literal of its condition, and no earlier token is a literal.
    have hLe : token.position ≤ last.position := by
      simp only [List.mem_cons, List.not_mem_nil, or_false] at hToken
      rcases hToken with rfl | rfl | rfl
      · exact hTiles.head_le (by simp)
      · exact hTilesOp.head_le (by simp)
      · exact Nat.le_refl _
    rcases List.mem_cons.mp hMem with rfl | hMem
    · exact absurd hName (TokenKind.ne_name_of_isLiteral hLiteral)
    rcases List.mem_cons.mp hMem with rfl | hMem
    · exact absurd hOp (Bool.eq_false_iff.mp (TokenKind.isOperator_of_isLiteral hLiteral))
    have hBehind := hTilesLast.head_le hMem
    show token.position < literal.stop
    omega

/-- A literal that ends no later than at the fault is among the tokens that have been read. -/
theorem FaultAt.length_lt {options : Options} {conditions k : Nat} {place : Place} {e : RuleError}
    {text : String} {front back : List Token} {literal : Token}
    (h : FaultAt options conditions ((TokenStream.ofText text).drop k) place e)
    (hTokens : (TokenStream.ofText text).tokens = front ++ literal :: back)
    (hLiteral : literal.kind.isLiteral = true) (hStop : literal.stop ≤ e.position) :
    front.length < k := by
  by_contra hLe
  have hMem : literal ∈ (TokenStream.ofText text).tokens.drop k := by
    rw [hTokens, List.drop_append_of_le_length (Nat.not_lt.mp hLe)]
    exact List.mem_append_right _ List.mem_cons_self
  have hBehind := h.position_lt_stop ((tiles_ofText text).1.drop k) hMem hLiteral
  omega

/-! ### Conditions among words -/

theorem conditionsIn_subset_cons (word : Word) (words : List Word) :
    conditionsIn words ⊆ conditionsIn (word :: words) := by
  intro c hc
  rw [conditionsIn, partsIn]
  split
  · exact List.mem_cons_of_mem _ hc
  · exact hc
  · exact hc

/-- The words of a condition are one wherever they stand. -/
theorem mem_conditionsIn (c : Condition) (front back : List Word) :
    c ∈ conditionsIn (front ++ (c.words ++ back)) := by
  induction front with
  | nil =>
    rw [List.nil_append, conditionsIn, c.partsIn_words]
    exact List.mem_cons_self
  | cons word front ih => exact conditionsIn_subset_cons _ _ ih

/-- Conditions do not overlap: one among words that end with a condition is that one, or it stands
in front of it. -/
theorem eq_nil_or_of_append_eq {c last : Condition} {front back judged : List Word}
    (h : front ++ (c.words ++ back) = judged ++ last.words) :
    back = [] ∨ ∃ between, judged = front ++ (c.words ++ between) := by
  rw [← List.append_assoc] at h
  rcases List.append_eq_append_iff.mp h with ⟨between, hJudged, -⟩ | ⟨shared, hFront, hLast⟩
  · exact .inr ⟨between, by rw [hJudged, List.append_assoc]⟩
  -- Words that both have would end with a literal and begin with the words of a condition.
  have hEnd : ∀ word ∈ shared.getLast?, word = c.literal := by
    intro word hWord
    have hLiteral : (front ++ c.words).getLast? = some c.literal := by simp [Condition.words]
    rw [hFront, List.getLast?_append, hWord] at hLiteral
    exact Option.some.inj hLiteral
  rw [Condition.words] at hLast
  rcases shared with _ | ⟨name, _ | ⟨op, _ | ⟨literal, shared⟩⟩⟩
  · exact .inr ⟨[], by simpa using hFront.symm⟩
  · obtain rfl := hEnd name rfl
    have hName := congrArg Word.kind (List.cons.inj hLast).1
    exact absurd hName.symm (TokenKind.ne_name_of_isLiteral c.isLiteral)
  · obtain rfl := hEnd op rfl
    have hOp := congrArg Word.kind (List.cons.inj (List.cons.inj hLast).2).1
    have hKind : c.literal.kind = last.op := hOp.symm
    have hNot := TokenKind.isOperator_of_isLiteral c.isLiteral
    rw [hKind, last.isOperator] at hNot
    cases hNot
  · simp only [List.cons_append, List.cons.injEq, List.nil_eq, List.append_eq_nil_iff] at hLast
    exact .inl hLast.2.2.2.2

variable {options : Options}

/-- Of words that have been judged, a condition means something unless text that is no token comes
next behind it. -/
theorem Judged.means_or {c : Condition} {front back : List Word} {rest : TokenStream}
    (h : Judged options (front ++ (c.words ++ back)) rest) :
    (∃ tree, c.Means options.now tree) ∨ rest.check ≠ .ok () ∧ back = [] := by
  obtain ⟨judged, hMeans, rfl | ⟨hCheck, last, hWords⟩⟩ := h
  · exact .inl (hMeans c (mem_conditionsIn c front back))
  · rcases eq_nil_or_of_append_eq hWords with rfl | ⟨between, rfl⟩
    · exact .inr ⟨hCheck, rfl⟩
    · exact .inl (hMeans c (mem_conditionsIn c front between))

/-! ### The first fault -/

variable {text : String} {e : RuleError}

/-- A fault is reported only if the conditions in front of it have a meaning: where a name, an
operator and a literal stand in a row and end no later than at the fault, they do. The only
condition for which it may be otherwise is the last one in front of text that is no token. Its
literal is taken only when what comes behind it has been found to be a token. -/
theorem valid_or_unrecognized (h : Rule.read options text = .error e)
    (hParens : ∀ paren position, e ≠ .unbalancedParen paren position) :
    ∀ before name op literal after,
      (TokenStream.ofText text).tokens = before ++ name :: op :: literal :: after →
      name.kind = .name → ∀ (hOp : op.kind.isOperator = true)
        (hLiteral : literal.kind.isLiteral = true), literal.stop ≤ e.position →
      Condition.Valid options.now ⟨name.value, op.kind, literal.word, hOp, hLiteral⟩ ∨
        (∃ position, e = .unrecognizedToken position) ∧ after = [] := by
  intro before name op literal after hTokens hName hOp hLiteral hStop
  let c : Condition := ⟨name.value, op.kind, literal.word, hOp, hLiteral⟩
  obtain ⟨-, hStops⟩ := stops_of_read h hParens
  obtain ⟨k, place, -, hFault, hJudged⟩ := hStops.exists_index_judged
  have hLexical := isLexical_ofText text
  rw [TokenStream.IsLexical, hTokens] at hLexical
  have hSplit : (TokenStream.ofText text).tokens = (before ++ [name, op]) ++ literal :: after := by
    rw [hTokens, List.append_assoc]
    rfl
  obtain ⟨m, rfl⟩ := Nat.exists_eq_add_of_lt (hFault.length_lt hSplit hLiteral hStop)
  have hCondition : [name, op, literal].map Token.word = c.words := by
    have hOpWord : op.word = .symbol op.kind :=
      (hLexical op (by simp)).eq_symbol rfl (TokenKind.isSymbol_of_isOperator hOp)
    rw [List.map_cons, List.map_cons, List.map_singleton, hOpWord, Token.word, hName]
    rfl
  have hTaken (m : Nat) : ((before ++ [name, op] ++ literal :: after).take
      ((before ++ [name, op]).length + m + 1)).map Token.word =
        before.map Token.word ++ (c.words ++ (after.take m).map Token.word) := by
    rw [Nat.add_assoc, List.take_length_add_append, List.take_succ_cons, ← hCondition]
    simp
  rw [hSplit, hTaken] at hJudged
  rcases hJudged.means_or with hMeans | ⟨hCheck, hBack⟩
  · refine .inl ((Condition.exists_means_iff ?_).mp hMeans)
    rw [Condition.isLexical_iff, ← hCondition, List.forall_mem_map]
    intro token hToken
    refine hLexical token (List.mem_append_right before ?_)
    exact List.mem_append_left after hToken
  · obtain ⟨hNone, hUnrecognized⟩ := hFault.of_check_ne hCheck
    refine .inr ⟨hUnrecognized, ?_⟩
    have hDrop : (TokenStream.ofText text).tokens.drop _ = [] := hNone
    rw [hSplit, Nat.add_assoc, List.drop_length_add_append, List.drop_succ_cons] at hDrop
    rw [← List.take_append_drop m after, List.map_eq_nil_iff.mp hBack, hDrop, List.nil_append]

theorem valid_or_unrecognized_sample :
    let text := "likes == 1 && $"
    let options : Options := { now := .epoch }
    let e : RuleError := .unrecognizedToken 14
    let name : Token := ⟨.name, "likes", 0, 5⟩
    let op : Token := ⟨.eq, "==", 6, 2⟩
    let literal : Token := ⟨.number, "1", 9, 1⟩
    let after : List Token := [⟨.and, "&&", 11, 2⟩]
    Rule.read options text = .error e ∧ (∀ paren position, e ≠ .unbalancedParen paren position) ∧
      (TokenStream.ofText text).tokens = name :: op :: literal :: after ∧
      literal.stop ≤ e.position ∧
      (Condition.Valid options.now ⟨name.value, op.kind, literal.word, rfl, rfl⟩ ∨
        (∃ position, e = .unrecognizedToken position) ∧ after = []) := by
  intro text options e name op literal after
  have hStream : TokenStream.ofText text =
      ⟨[name, op, literal, ⟨.and, "&&", 11, 2⟩], .unrecognized 14⟩ := by decide +kernel
  have hTakes : (TokenStream.ofText text).Takes Phrase.sampleCondition.words
      ⟨after, .unrecognized 14⟩ := by
    rw [hStream]
    exact ⟨[name, op, literal], rfl, rfl, rfl⟩
  have hRead : Rule.read options text = .error e := by
    refine read_eq_error (by decide) (by rw [hStream]; rfl) ?_
    have hOperand : ∃ r, readOperand options 0 0 (.ofText text) = .ok r ∧
        r.rest = ⟨after, .unrecognized 14⟩ ∧ r.conditions = 1 :=
      readOperand_complete _ hTakes rfl (Phrase.exists_means_sampleCondition _) (by decide)
        (by decide)
    obtain ⟨⟨_, _, _, rest, _⟩, hFirst, rfl, -⟩ := hOperand
    rw [readChain]
    exact bind_eq_error_iff.mpr (.inr ⟨_, hFirst, rfl⟩)
  have hTokens : (TokenStream.ofText text).tokens = name :: op :: literal :: after := by
    rw [hStream]
  have hStop : literal.stop ≤ e.position := by decide
  exact ⟨hRead, nofun, hTokens, hStop,
    valid_or_unrecognized hRead nofun [] name op literal after hTokens rfl rfl rfl hStop⟩

/-- Text that is no token hides that the condition in front of it names no field. -/
theorem not_valid_of_unrecognized :
    ¬ ∀ (options : Options) (text : String) (e : RuleError), Rule.read options text = .error e →
      (∀ paren position, e ≠ .unbalancedParen paren position) →
      ∀ before name op literal after,
        (TokenStream.ofText text).tokens = before ++ name :: op :: literal :: after →
        name.kind = .name → ∀ (hOp : op.kind.isOperator = true)
          (hLiteral : literal.kind.isLiteral = true), literal.stop ≤ e.position →
        Condition.Valid options.now ⟨name.value, op.kind, literal.word, hOp, hLiteral⟩ := by
  intro h
  let text := "hates == 5 $"
  have hStream : TokenStream.ofText text =
      ⟨[⟨.name, "hates", 0, 5⟩, ⟨.eq, "==", 6, 2⟩, ⟨.number, "5", 9, 1⟩], .unrecognized 11⟩ := by
    decide +kernel
  have hRead : Rule.read { now := .epoch } text = .error (.unrecognizedToken 11) := by
    refine read_eq_error (by decide) (by rw [hStream]; rfl) ?_
    rw [hStream, readChain, readOperand]
    rfl
  obtain ⟨field, hName, -⟩ :=
    h _ _ _ hRead nofun [] _ _ _ [] (by rw [hStream]; rfl) rfl rfl rfl (by decide)
  have hNone : ∀ field : Field, "hates" ≠ field.name := by
    intro field
    cases field <;> decide
  exact hNone field hName

end PostSieve.Rule
