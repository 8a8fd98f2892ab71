import PostSieve.Proofs.Reading

/-! Two readings in step: from tokens that differ in their places alone, both readings succeed with
the same tree or both fail, and then with the same error at tokens that correspond. -/

namespace PostSieve.Rule

open Calendar (Instant)

/-! ### Places -/

/-- The same token at another place. -/
def Token.movedTo (place : Nat) (t : Token) : Token := { t with position := place }

/-- The same error about another place. -/
def RuleError.movedTo (place : Nat) : RuleError → RuleError
  | unrecognizedToken _ => unrecognizedToken place
  | unbalancedParen paren _ => unbalancedParen paren place
  | unexpectedToken expected found => unexpectedToken expected (found.movedTo place)
  | invalidCondition fault token => invalidCondition fault (token.movedTo place)
  | nestingTooDeep maxDepth _ => nestingTooDeep maxDepth place
  | tooManyConditions maxConditions _ => tooManyConditions maxConditions place

/-- The same way to stop at another place. -/
def Ending.movedTo (place : Nat) : Ending → Ending
  | endOfText _ => endOfText place
  | unrecognized _ => unrecognized place

/-- A relation of tokens that correspond to each other: they differ in their places alone. -/
def Corresponds (R : Token → Token → Prop) : Prop :=
  ∀ token token', R token token' → token' = token.movedTo token'.position

/-- Whether an error is about a token and another is the same about the corresponding one. -/
def RuleError.Alike (R : Token → Token → Prop) (e e' : RuleError) : Prop :=
  ∃ token token', R token token' ∧ e.position = token.position ∧
    e' = e.movedTo token'.position

/-- Whether the tokens of two streams correspond one by one, and so do their ends. -/
structure TokenStream.Alike (R : Token → Token → Prop) (stream stream' : TokenStream) : Prop where
  tokens : List.Forall₂ R stream.tokens stream'.tokens
  ending : stream'.ending = stream.ending.movedTo stream'.ending.position
  last : R (.endAt stream.ending.position) (.endAt stream'.ending.position)

/-- Whether two readings came to the same tree and counts, and to streams that are alike. -/
structure Reading.Alike {stream stream' : TokenStream} (R : Token → Token → Prop)
    (r : Reading stream) (r' : Reading stream') : Prop where
  tree_eq : r'.tree = r.tree
  nodeCount_eq : r'.nodeCount = r.nodeCount
  conditions_eq : r'.conditions = r.conditions
  rest : r.rest.Alike R r'.rest

variable {R : Token → Token → Prop} {stream stream' : TokenStream}

theorem Corresponds.kind_eq (hR : Corresponds R) {token token' : Token} (h : R token token') :
    token'.kind = token.kind := by
  rw [hR token token' h]
  rfl

theorem Corresponds.value_eq (hR : Corresponds R) {token token' : Token} (h : R token token') :
    token'.value = token.value := by
  rw [hR token token' h]
  rfl

theorem Corresponds.unexpected (hR : Corresponds R) {token token' : Token} (h : R token token')
    (expected : Expected) :
    (RuleError.unexpectedToken expected token).Alike R (.unexpectedToken expected token') := by
  refine ⟨token, token', h, rfl, ?_⟩
  rw [RuleError.movedTo, ← hR token token' h]

theorem Corresponds.invalid (hR : Corresponds R) {token token' : Token} (h : R token token')
    (fault : Fault) :
    (RuleError.invalidCondition fault token).Alike R (.invalidCondition fault token') := by
  refine ⟨token, token', h, rfl, ?_⟩
  rw [RuleError.movedTo, ← hR token token' h]

/-! ### Streams -/

namespace TokenStream.Alike

theorem current (h : stream.Alike R stream') : R stream.current stream'.current := by
  obtain ⟨tokens, ending⟩ := stream
  obtain ⟨tokens', ending'⟩ := stream'
  obtain ⟨hTokens, -, hLast⟩ := h
  cases hTokens with
  | nil => exact hLast
  | cons hToken _ => exact hToken

theorem check (h : stream.Alike R stream') :
    Both (RuleError.Alike R) (fun _ _ => True) stream.check stream'.check := by
  obtain ⟨tokens, ending⟩ := stream
  obtain ⟨tokens', ending'⟩ := stream'
  obtain ⟨hTokens, hEnding, hLast⟩ := h
  cases hTokens with
  | nil =>
    cases ending with
    | endOfText place =>
      simp only [Ending.movedTo] at hEnding
      rw [hEnding]
      exact .ok trivial
    | unrecognized place =>
      simp only [Ending.movedTo] at hEnding
      rw [hEnding] at hLast ⊢
      exact .error ⟨_, _, hLast, rfl, rfl⟩
  | cons _ _ => exact .ok trivial

theorem size_eq (h : stream.Alike R stream') : stream'.size = stream.size :=
  h.tokens.length_eq.symm

end TokenStream.Alike

/-! ### The readers one by one -/

theorem take_alike (hR : Corresponds R) (expected : Expected) (accepts : TokenKind → Bool)
    (h : stream.Alike R stream') :
    Both (RuleError.Alike R)
      (fun taken taken' => R taken.token taken'.token ∧ taken.rest.Alike R taken'.rest)
      (take expected accepts stream) (take expected accepts stream') := by
  obtain ⟨tokens, ending⟩ := stream
  obtain ⟨tokens', ending'⟩ := stream'
  obtain ⟨hTokens, hEnding, hLast⟩ := h
  cases hTokens with
  | nil => exact .error (hR.unexpected hLast expected)
  | @cons token token' tokens tokens' hToken hRest =>
    have hAlike : TokenStream.Alike R ⟨tokens, ending⟩ ⟨tokens', ending'⟩ := ⟨hRest, hEnding, hLast⟩
    simp only [take, hR.kind_eq hToken]
    split
    · exact hAlike.check.bind fun _ _ _ => .ok ⟨hToken, hAlike⟩
    · exact .error (hR.unexpected hToken expected)

/-- Whether tokens that correspond make conditions that mean the same, or errors that are alike. -/
def MeansAlike (R : Token → Token → Prop) (now now' : Instant) : Prop :=
  ∀ name name' op op' literal literal', R name name' → R op op' → R literal literal' →
    Both (RuleError.Alike R) (fun tree tree' => tree' = tree) (conditionOf now name op literal)
      (conditionOf now' name' op' literal')

variable {options : Options} {now' : Instant}

theorem readCondition_alike (hR : Corresponds R) (hMeans : MeansAlike R options.now now')
    {conditions : Nat} (h : stream.Alike R stream') :
    Both (RuleError.Alike R) (Reading.Alike R) (readCondition options conditions stream)
      (readCondition { options with now := now' } conditions stream') := by
  unfold readCondition
  dsimp only
  split
  · exact .error ⟨_, _, h.current, rfl, rfl⟩
  · refine (take_alike hR _ _ h).bind fun name name' hName => ?_
    refine (take_alike hR _ _ hName.2).bind fun op op' hOp => ?_
    refine (take_alike hR _ _ hOp.2).bind fun literal literal' hLiteral => ?_
    refine (hMeans _ _ _ _ _ _ hName.1 hOp.1 hLiteral.1).bind fun tree tree' hTree => ?_
    exact .ok ⟨hTree, rfl, rfl, hLiteral.2⟩

mutual

theorem readOperand_alike (hR : Corresponds R) (hMeans : MeansAlike R options.now now')
    {depth conditions : Nat} {stream stream' : TokenStream} (h : stream.Alike R stream') :
    Both (RuleError.Alike R) (Reading.Alike R) (readOperand options depth conditions stream)
      (readOperand { options with now := now' } depth conditions stream') := by
  rw [readOperand, readOperand, hR.kind_eq h.current]
  dsimp only
  split
  · split
    · exact .error ⟨_, _, h.current, rfl, rfl⟩
    · refine (take_alike hR _ _ h).bind fun opened opened' hOpened => ?_
      have := opened.shorter
      refine (readChain_alike hR hMeans hOpened.2).bind fun inner inner' hInner => ?_
      refine (take_alike hR _ _ hInner.rest).bind fun closed closed' hClosed => ?_
      exact .ok ⟨hInner.tree_eq, congrArg (· + 1) hInner.nodeCount_eq, hInner.conditions_eq,
        hClosed.2⟩
  · exact readCondition_alike hR hMeans h
termination_by (stream.size, 0)

theorem readChain_alike (hR : Corresponds R) (hMeans : MeansAlike R options.now now')
    {depth conditions : Nat} {stream stream' : TokenStream} (h : stream.Alike R stream') :
    Both (RuleError.Alike R) (Reading.Alike R) (readChain options depth conditions stream)
      (readChain { options with now := now' } depth conditions stream') := by
  rw [readChain, readChain]
  refine (readOperand_alike hR hMeans h).bind fun first first' hFirst => ?_
  have hKind := hR.kind_eq hFirst.rest.current
  rw [hKind, hFirst.conditions_eq]
  split
  · exact .ok hFirst
  · refine (take_alike hR _ _ hFirst.rest).bind fun join join' hJoin => ?_
    have := first.shorter
    have := join.shorter
    refine (readChain_alike hR hMeans hJoin.2).bind fun others others' hOthers => ?_
    refine .ok ⟨?_, ?_, hOthers.conditions_eq, hOthers.rest⟩
    · rw [hFirst.tree_eq, hOthers.tree_eq]
    · rw [hFirst.nodeCount_eq, hOthers.nodeCount_eq]
termination_by (stream.size, 1)

end

/-! ### Whole rules -/

/-- Two texts whose tokens correspond are read alike, if their parentheses are checked alike. -/
theorem read_alike {text text' : String} (hR : Corresponds R)
    (hMeans : MeansAlike R options.now now')
    (hStream : (TokenStream.ofText text).Alike R (TokenStream.ofText text'))
    (hParens : Both (RuleError.Alike R) (fun _ _ => True) (checkParens text)
      (checkParens text')) :
    Both (RuleError.Alike R)
      (fun rule rule' => rule'.tree = rule.tree ∧ rule'.nodeCount = rule.nodeCount)
      (Rule.read options text) (Rule.read { options with now := now' } text') := by
  unfold Rule.read
  refine hParens.bind fun _ _ _ => ?_
  refine hStream.check.bind fun _ _ _ => ?_
  refine (readChain_alike hR hMeans hStream).bind fun chain chain' hChain => ?_
  rw [hChain.rest.size_eq]
  split
  · exact .ok ⟨hChain.tree_eq, hChain.nodeCount_eq⟩
  · exact .error (hR.unexpected hChain.rest.current .endOfRule)

end PostSieve.Rule
