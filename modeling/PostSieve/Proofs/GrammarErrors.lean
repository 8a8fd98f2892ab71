import PostSieve.Proofs.Acceptance
import PostSieve.Proofs.Faults

/-! Errors of grammar and of the number of conditions. A token is reported as unexpected exactly
where no rule can go on with it, and everything in front of it is the beginning of a rule. -/

namespace PostSieve.Rule

variable {options : Options} {text : String} {e : RuleError}

/-- Where a reading fails for anything but unbalanced parentheses, these are balanced, and it stops
at a fault. -/
theorem stops_of_read (h : Rule.read options text = .error e)
    (hParens : ∀ paren position, e ≠ .unbalancedParen paren position) :
    checkParens text = .ok () ∧ Stops options .start 0 (.ofText text) e := by
  rcases read_error h with hUnbalanced | hStops
  · obtain ⟨paren, position, he, -⟩ := checkParens_eq_error hUnbalanced
    exact absurd he (hParens paren position)
  · exact hStops

/-- A number of tokens then leads from the start of the rule to the place of the fault. -/
theorem exists_faultAt (h : Rule.read options text = .error e)
    (hParens : ∀ paren position, e ≠ .unbalancedParen paren position) :
    let stream := TokenStream.ofText text
    checkParens text = .ok () ∧ ∃ k place,
      Place.start.after ((stream.tokens.take k).map Token.kind) = some place ∧
      FaultAt options (conditionsIn ((stream.tokens.take k).map Token.word)).length
        (stream.drop k) place e := by
  intro stream
  obtain ⟨hBalanced, hStops⟩ := stops_of_read h hParens
  have hIndex := hStops.exists_index
  simp only [Nat.zero_add] at hIndex
  exact ⟨hBalanced, hIndex⟩

/-! ### Unexpected tokens -/

/-- The tokens in front of an unexpected one are the beginning of a rule, and together with it they
are not. Where the end is what is unexpected, they are no rule. -/
theorem read_unexpectedToken {expected : Expected} {found : Token}
    (h : Rule.read options text = .error (.unexpectedToken expected found)) :
    let stream := TokenStream.ofText text
    ∃ k, stream.lookup k = .ok found ∧ Viable ((stream.tokens.take k).map Token.kind) ∧
      ¬ Viable ((stream.tokens.take k).map Token.kind ++ [found.kind]) ∧
      (found.kind = .endOfText → ¬ Derives .chain ((stream.tokens.take k).map Token.kind)) := by
  intro stream
  obtain ⟨-, k, place, hAfter, hFault⟩ := exists_faultAt h nofun
  cases hFault with
  | unexpected hCheck hAdmits =>
    rw [admits_iff_viable hAfter, not_or, not_and] at hAdmits
    exact ⟨k, TokenStream.lookup_of_check hCheck, viable_of_after hAfter, hAdmits⟩

theorem read_unexpectedToken_sample :
    let text := "likes likes"
    let found : Token := ⟨.name, "likes", 6, 5⟩
    let stream := TokenStream.ofText text
    Rule.read { now := .epoch } text = .error (.unexpectedToken .operator found) ∧
      ∃ k, stream.lookup k = .ok found ∧ Viable ((stream.tokens.take k).map Token.kind) ∧
        ¬ Viable ((stream.tokens.take k).map Token.kind ++ [found.kind]) ∧
        (found.kind = .endOfText → ¬ Derives .chain ((stream.tokens.take k).map Token.kind)) := by
  intro text found stream
  have hStream : TokenStream.ofText text =
      ⟨[⟨.name, "likes", 0, 5⟩, ⟨.name, "likes", 6, 5⟩], .endOfText 11⟩ := by decide +kernel
  have hRead : Rule.read { now := .epoch } text = .error (.unexpectedToken .operator found) := by
    refine read_eq_error (by decide) (by rw [hStream]; rfl) ?_
    rw [hStream, readChain, readOperand]
    rfl
  exact ⟨hRead, read_unexpectedToken hRead⟩

/-! ### Conditions and names -/

/-- Each condition has a name of its own. -/
theorem length_conditionsIn_le (words : List Word) :
    (conditionsIn words).length ≤ (words.map Word.kind).count .name := by
  induction words with
  | nil => exact Nat.le_refl 0
  | cons word words ih =>
    rw [List.map_cons]
    by_cases hName : word.kind = .name
    · rw [hName, List.count_cons_self, conditionsIn, partsIn]
      have hLe : (conditionsIn words).length + 1 ≤ (words.map Word.kind).count .name + 1 :=
        Nat.succ_le_succ ih
      split
      · exact hLe
      · exact Nat.le_of_succ_le hLe
      · exact Nat.le_of_succ_le hLe
    · rw [conditionsIn_cons (leadingCondition?_eq_none hName words),
        List.count_cons_of_ne hName]
      exact ih

/-- In a phrase all names begin conditions. -/
theorem Phrase.names_words {level : Level} (p : Phrase level) :
    (p.words.filter (·.kind = .name)).map Word.value = p.conditions.map Condition.name := by
  induction p with
  | condition c =>
    have hOp : c.op ≠ .name := TokenKind.ne_name_of_isOperator c.isOperator
    have hLiteral : c.literal.kind ≠ .name := TokenKind.ne_name_of_isLiteral c.isLiteral
    simp [words, Condition.words, conditions, hOp, hLiteral]
  | group inner ih =>
    simpa [words, conditions] using ih
  | single operand ih => exact ih
  | joined first join rest ihFirst ihRest =>
    have hJoin : join.token ≠ .name := by cases join <;> decide
    simp [words, conditions, hJoin, ihFirst, ihRest]

theorem Phrase.count_name {level : Level} (p : Phrase level) :
    (p.words.map Word.kind).count .name = p.conditions.length := by
  have hNames := congrArg List.length p.names_words
  rw [List.length_map, List.length_map] at hNames
  rw [← hNames, List.count, List.countP_map, List.countP_eq_length_filter]
  rfl

/-! ### Too many conditions -/

/-- Where a condition can begin, and no group does, nothing else can. -/
theorem viable_concat_name_iff {opened : Nat} {kinds : List TokenKind} {kind : TokenKind}
    (h : Place.start.after kinds = some ⟨.operand, opened⟩) (hOpen : kind ≠ .openParen) :
    Viable (kinds ++ [kind]) ↔ kind = .name := by
  rw [viable_concat_iff h]
  constructor
  · rintro ⟨_, hStep⟩
    cases hStep with
    | openParen => exact absurd rfl hOpen
    | name => rfl
  · rintro rfl
    exact ⟨_, .name⟩

/-- Tokens that are a rule have more conditions than were counted in front of a name among them. -/
theorem lt_length_conditionsIn {tokens : List Token} {token : Token} {k : Nat}
    (hLexical : ∀ token ∈ tokens, token.word.IsLexical)
    (hDerives : Derives .chain (tokens.map Token.kind)) (hToken : tokens[k]? = some token)
    (hName : token.kind = .name) : (conditionsIn ((tokens.take k).map Token.word)).length <
      (conditionsIn (tokens.map Token.word)).length := by
  have hWords : ∀ word ∈ tokens.map Token.word, word.IsLexical := List.forall_mem_map.mpr hLexical
  -- A rule has as many conditions as names, and other tokens at most as many.
  obtain ⟨p, hp⟩ := hDerives.exists_phrase hWords (by rw [List.map_map]; rfl)
  have hAll : (conditionsIn (tokens.map Token.word)).length =
      ((tokens.map Token.word).map Word.kind).count .name := by
    rw [← hp, p.conditionsIn_eq, p.count_name]
  have hFront := length_conditionsIn_le ((tokens.take k).map Token.word)
  have hSplit : tokens = tokens.take k ++ token :: tokens.drop (k + 1) := by
    obtain ⟨hk, rfl⟩ := List.getElem?_eq_some_iff.mp hToken
    rw [List.getElem_cons_drop, List.take_append_drop]
  have hCount : ((tokens.map Token.word).map Word.kind).count .name =
      (((tokens.take k).map Token.word).map Word.kind).count .name +
        (((tokens.drop (k + 1)).map Token.word).map Word.kind).count .name + 1 := by
    conv_lhs => rw [hSplit]
    rw [List.map_append, List.map_append, List.count_append, List.map_cons, List.map_cons,
      show token.word.kind = .name from hName, List.count_cons_self]
    omega
  omega

/-- Too many conditions are reported where a condition can begin, behind as many as there may be.
If a name stands there it begins a further one. It need not be a name, but no rule can go on with
anything else that stands there, so that a rule with this error has more conditions than it may
have. -/
theorem read_tooManyConditions {maxConditions position : Nat}
    (h : Rule.read options text = .error (.tooManyConditions maxConditions position)) :
    let stream := TokenStream.ofText text
    maxConditions = options.maxConditions ∧
      (∃ k token, stream.lookup k = .ok token ∧ token.position = position ∧
        (conditionsIn ((stream.tokens.take k).map Token.word)).length = maxConditions ∧
        Viable ((stream.tokens.take k).map Token.kind ++ [.name]) ∧ token.kind ≠ .openParen ∧
        (Viable ((stream.tokens.take k).map Token.kind ++ [token.kind]) ↔ token.kind = .name)) ∧
      (Derives .chain (stream.tokens.map Token.kind) →
        maxConditions < (conditionsIn (stream.tokens.map Token.word)).length) := by
  intro stream
  obtain ⟨-, k, place, hAfter, hFault⟩ := exists_faultAt h nofun
  cases hFault with
  | tooMany hCheck hOpen hCount =>
    have hLookup := TokenStream.lookup_of_check hCheck
    have hViable := viable_concat_name_iff hAfter hOpen
    refine ⟨rfl, ⟨k, _, hLookup, rfl, hCount, ?_, hOpen, hViable⟩, fun hDerives => ?_⟩
    · exact (viable_concat_iff hAfter).mpr ⟨_, .name⟩
    rw [← hCount]
    cases hToken : stream.tokens[k]? with
    | none =>
      -- All tokens lead to where a condition can begin, and a rule does not end there.
      rw [List.take_of_length_le (List.getElem?_eq_none_iff.mp hToken),
        derives_iff_after.mp hDerives] at hAfter
      cases hAfter
    | some token =>
      have hCurrent : (stream.drop k).current = token :=
        Except.ok.inj (hLookup.symm.trans (TokenStream.lookup_eq_ok hToken))
      refine lt_length_conditionsIn (isLexical_ofText text) hDerives hToken ?_
      rw [← hCurrent, ← hViable, hCurrent]
      have hFront := (List.take_prefix (k + 1) stream.tokens).map Token.kind
      rw [List.take_add_one, hToken, Option.toList_some, List.map_append] at hFront
      exact ⟨_, hDerives, hFront⟩

/-- Behind as many conditions as there may be, and a join, the limit is reported whatever follows,
unless a group does. -/
theorem readChain_limit {first : Phrase .operand} {join : Join} {depth conditions : Nat}
    {stream rest : TokenStream} (hTakes : stream.Takes (first.words ++ [.symbol join.token]) rest)
    (hCheck : rest.check = .ok ()) (hOpen : rest.current.kind ≠ .openParen)
    (hMeans : ∃ tree, first.Means options.now tree)
    (hDepth : depth + first.depth ≤ options.maxDepth)
    (hCount : conditions + first.conditions.length = options.maxConditions) :
    readChain options depth conditions stream =
      .error (.tooManyConditions options.maxConditions rest.current.position) := by
  obtain ⟨mid, hTakesFirst, hTakesJoin⟩ := hTakes.append
  obtain ⟨r, hFirst, rfl, hConditions⟩ := readOperand_complete first hTakesFirst
    (hTakesJoin.check hCheck) hMeans hDepth hCount.le
  have hJoinKind : r.rest.current.kind = join.token := hTakesJoin.current_kind
  obtain ⟨joined, hJoined, -, hTakesNil⟩ := take_of_takes (.token r.rest.current.kind)
    (· == r.rest.current.kind) hTakesJoin (beq_iff_eq.mpr hJoinKind.symm) hCheck
  obtain rfl : joined.rest = rest := hTakesNil.eq_of_nil
  rw [readChain]
  refine bind_eq_error_iff.mpr (.inr ⟨r, hFirst, ?_⟩)
  split
  · rename_i hNone
    cases hNone.symm.trans (Join.ofToken?_eq_some_iff.mpr hJoinKind)
  · refine bind_eq_error_iff.mpr (.inr ⟨joined, hJoined, bind_eq_error_iff.mpr (.inl ?_)⟩)
    rw [readChain, readOperand, if_neg hOpen, readCondition,
      if_pos (hConditions.trans hCount).ge]
    rfl

theorem read_tooManyConditions_sample :
    let options : Options := { now := .epoch, maxConditions := 1 }
    let text := "likes == 1 && likes == 2"
    let stream := TokenStream.ofText text
    Rule.read options text = .error (.tooManyConditions 1 14) ∧
      1 = options.maxConditions ∧
      (∃ k token, stream.lookup k = .ok token ∧ token.position = 14 ∧
        (conditionsIn ((stream.tokens.take k).map Token.word)).length = 1 ∧
        Viable ((stream.tokens.take k).map Token.kind ++ [.name]) ∧ token.kind ≠ .openParen ∧
        (Viable ((stream.tokens.take k).map Token.kind ++ [token.kind]) ↔ token.kind = .name)) ∧
      (Derives .chain (stream.tokens.map Token.kind) →
        1 < (conditionsIn (stream.tokens.map Token.word)).length) := by
  intro options text stream
  have hStream : TokenStream.ofText text =
      ⟨[⟨.name, "likes", 0, 5⟩, ⟨.eq, "==", 6, 2⟩, ⟨.number, "1", 9, 1⟩, ⟨.and, "&&", 11, 2⟩] ++
        [⟨.name, "likes", 14, 5⟩, ⟨.eq, "==", 20, 2⟩, ⟨.number, "2", 23, 1⟩], .endOfText 24⟩ := by
    decide +kernel
  have hTakes : (TokenStream.ofText text).Takes
      (Phrase.sampleCondition.words ++ [.symbol Join.and.token])
      ⟨[⟨.name, "likes", 14, 5⟩, ⟨.eq, "==", 20, 2⟩, ⟨.number, "2", 23, 1⟩], .endOfText 24⟩ := by
    rw [hStream]
    exact ⟨_, rfl, rfl, rfl⟩
  have hRead : Rule.read options text = .error (.tooManyConditions 1 14) := by
    refine read_eq_error (by decide) (by rw [hStream]; rfl) ?_
    exact readChain_limit hTakes rfl (by decide)
      (Phrase.exists_means_sampleCondition _) (by decide) rfl
  exact ⟨hRead, read_tooManyConditions hRead⟩

/-- The limit is also reported at the end of a text, where no condition begins. -/
theorem not_name_of_tooManyConditions :
    ¬ ∀ (options : Options) (text : String) (maxConditions position : Nat),
      Rule.read options text = .error (.tooManyConditions maxConditions position) →
      ∃ token ∈ (TokenStream.ofText text).tokens,
        token.position = position ∧ token.kind = .name := by
  intro h
  let text := "likes == 1 &&"
  have hStream : TokenStream.ofText text =
      ⟨[⟨.name, "likes", 0, 5⟩, ⟨.eq, "==", 6, 2⟩, ⟨.number, "1", 9, 1⟩, ⟨.and, "&&", 11, 2⟩],
        .endOfText 13⟩ := by
    decide +kernel
  have hTakes : (TokenStream.ofText text).Takes
      (Phrase.sampleCondition.words ++ [.symbol Join.and.token]) ⟨[], .endOfText 13⟩ := by
    rw [hStream]
    exact ⟨_, (List.append_nil _).symm, rfl, rfl⟩
  have hRead : Rule.read { now := .epoch, maxConditions := 1 } text =
      .error (.tooManyConditions 1 13) := by
    refine read_eq_error (by decide) (by rw [hStream]; rfl) ?_
    exact readChain_limit hTakes rfl (by decide)
      (Phrase.exists_means_sampleCondition _) (by decide) rfl
  obtain ⟨token, hMem, hPosition, -⟩ := h _ _ _ _ hRead
  have hNone : ∀ token ∈ (TokenStream.ofText text).tokens, token.position ≠ 13 := by
    rw [hStream]
    decide
  exact hNone token hMem hPosition

end PostSieve.Rule
