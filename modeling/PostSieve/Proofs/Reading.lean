import PostSieve.Proofs.Grammar
import PostSieve.Proofs.Results
import PostSieve.Rule.Reading

/-! Reading tokens by the grammar: what each reader takes when it succeeds, that it has read a
phrase then, and that it reads every phrase within the limits. -/

namespace PostSieve.Rule

open Calendar (Instant)

/-! ### Parts of a stream -/

namespace TokenStream

/-- Whether all tokens are in the languages of their kinds. -/
def IsLexical (stream : TokenStream) : Prop := ∀ token ∈ stream.tokens, token.word.IsLexical

/-- Whether a stream has some words in front of the rest of it. -/
def Takes (stream : TokenStream) (words : List Word) (rest : TokenStream) : Prop :=
  ∃ used, stream.tokens = used ++ rest.tokens ∧ used.map Token.word = words ∧
    stream.ending = rest.ending

namespace Takes

variable {stream mid rest : TokenStream} {words words' : List Word}

theorem trans (h : stream.Takes words mid) (h' : mid.Takes words' rest) :
    stream.Takes (words ++ words') rest := by
  obtain ⟨used, hTokens, rfl, hEnding⟩ := h
  obtain ⟨used', hTokens', rfl, hEnding'⟩ := h'
  refine ⟨used ++ used', ?_, List.map_append, hEnding.trans hEnding'⟩
  rw [hTokens, hTokens', List.append_assoc]

theorem append (h : stream.Takes (words ++ words') rest) :
    ∃ mid, stream.Takes words mid ∧ mid.Takes words' rest := by
  obtain ⟨_, hTokens, hWords, hEnding⟩ := h
  obtain ⟨used, used', rfl, rfl, rfl⟩ := List.map_eq_append_iff.mp hWords
  refine ⟨⟨used' ++ rest.tokens, rest.ending⟩, ⟨used, ?_, rfl, hEnding⟩, used', rfl, rfl, rfl⟩
  rw [hTokens, List.append_assoc]

theorem isLexical (h : stream.Takes words rest) (hStream : stream.IsLexical) :
    rest.IsLexical := by
  obtain ⟨used, hTokens, -, -⟩ := h
  intro token hToken
  exact hStream token (by rw [hTokens]; exact List.mem_append_right used hToken)

theorem eq_of_nil (h : stream.Takes [] rest) : stream = rest := by
  obtain ⟨used, hTokens, hUsed, hEnding⟩ := h
  obtain rfl := List.map_eq_nil_iff.mp hUsed
  cases stream
  cases hTokens
  cases hEnding
  rfl

/-- Text that is no token comes no sooner than behind the words. -/
theorem check (h : stream.Takes words rest) (hCheck : rest.check = .ok ()) :
    stream.check = .ok () := by
  cases words with
  | nil => exact h.eq_of_nil ▸ hCheck
  | cons word words =>
    obtain ⟨used, hTokens, hWords, -⟩ := h
    obtain ⟨token, used, rfl, -, -⟩ := List.map_eq_cons_iff.mp hWords
    rw [TokenStream.check, hTokens]
    rfl

theorem current_kind {word : Word} (h : stream.Takes (word :: words) rest) :
    stream.current.kind = word.kind := by
  obtain ⟨used, hTokens, hWords, -⟩ := h
  obtain ⟨token, used, rfl, rfl, -⟩ := List.map_eq_cons_iff.mp hWords
  rw [current, hTokens]
  rfl

end Takes

end TokenStream

open TokenStream (Takes)

/-! ### The readers one by one -/

theorem take_ok {expected : Expected} {accepts : TokenKind → Bool} {stream : TokenStream}
    {taken : Taken stream} (h : take expected accepts stream = .ok taken) :
    stream.Takes [taken.token.word] taken.rest ∧ taken.token ∈ stream.tokens ∧
      accepts taken.token.kind = true ∧ taken.rest.check = .ok () := by
  unfold take at h
  split at h
  · cases h
  · rename_i token tokens hTokens
    split at h
    · rename_i hAccepts
      obtain ⟨_, hCheck, hTaken⟩ := bind_eq_ok_iff.mp h
      cases hTaken
      have hMem : token ∈ stream.tokens := hTokens ▸ List.mem_cons_self
      exact ⟨⟨[token], hTokens, rfl, rfl⟩, hMem, hAccepts, hCheck⟩
    · cases h

theorem take_of_takes {stream rest : TokenStream} {word : Word} {words : List Word}
    (expected : Expected) (accepts : TokenKind → Bool) (h : stream.Takes (word :: words) rest)
    (hAccepts : accepts word.kind = true) (hCheck : rest.check = .ok ()) :
    ∃ taken, take expected accepts stream = .ok taken ∧ taken.token.word = word ∧
      taken.rest.Takes words rest := by
  obtain ⟨tokens, ending⟩ := stream
  obtain ⟨_, hTokens, hWords, hEnding⟩ := h
  obtain ⟨token, used, rfl, rfl, rfl⟩ := List.map_eq_cons_iff.mp hWords
  obtain rfl : tokens = token :: (used ++ rest.tokens) := hTokens
  have hRest : Takes ⟨used ++ rest.tokens, ending⟩ (used.map Token.word) rest :=
    ⟨used, rfl, rfl, hEnding⟩
  refine ⟨⟨token, ⟨used ++ rest.tokens, ending⟩, Nat.lt_succ_self _⟩, ?_, rfl, hRest⟩
  have hAccepts : accepts token.kind = true := hAccepts
  simp only [take, if_pos hAccepts]
  exact bind_eq_ok_iff.mpr ⟨(), hRest.check hCheck, rfl⟩

theorem readCondition_ok {options : Options} {conditions : Nat} {stream : TokenStream}
    {r : Reading stream} (h : readCondition options conditions stream = .ok r) :
    conditions < options.maxConditions ∧ ∃ (name : Taken stream) (op : Taken name.rest)
      (literal : Taken op.rest), takeKind .name stream = .ok name ∧
      take .operator TokenKind.isOperator name.rest = .ok op ∧
      take .literal TokenKind.isLiteral op.rest = .ok literal ∧
      conditionOf options.now name.token op.token literal.token = .ok r.tree ∧
      r.nodeCount = 1 ∧ r.conditions = conditions + 1 ∧ r.rest = literal.rest := by
  unfold readCondition at h
  split at h
  · cases h
  · rename_i hLimit
    obtain ⟨name, hName, h⟩ := bind_eq_ok_iff.mp h
    obtain ⟨op, hOp, h⟩ := bind_eq_ok_iff.mp h
    obtain ⟨literal, hLiteral, h⟩ := bind_eq_ok_iff.mp h
    obtain ⟨tree, hTree, h⟩ := bind_eq_ok_iff.mp h
    cases h
    exact ⟨Nat.not_le.mp hLimit, name, op, literal, hName, hOp, hLiteral, hTree, rfl, rfl, rfl⟩

theorem readOperand_ok {options : Options} {depth conditions : Nat} {stream : TokenStream}
    {r : Reading stream} (h : readOperand options depth conditions stream = .ok r) :
    readCondition options conditions stream = .ok r ∨
      depth < options.maxDepth ∧ ∃ (opened : Taken stream) (inner : Reading opened.rest)
        (closed : Taken inner.rest), takeKind .openParen stream = .ok opened ∧
        readChain options (depth + 1) conditions opened.rest = .ok inner ∧
        takeKind .closeParen inner.rest = .ok closed ∧ r.tree = inner.tree ∧
        r.nodeCount = inner.nodeCount + 1 ∧ r.conditions = inner.conditions ∧
        r.rest = closed.rest := by
  rw [readOperand] at h
  split at h
  · split at h
    · cases h
    · rename_i hLimit
      obtain ⟨opened, hOpened, h⟩ := bind_eq_ok_iff.mp h
      obtain ⟨inner, hInner, h⟩ := bind_eq_ok_iff.mp h
      obtain ⟨closed, hClosed, h⟩ := bind_eq_ok_iff.mp h
      cases h
      exact Or.inr ⟨Nat.not_le.mp hLimit, opened, inner, closed, hOpened, hInner, hClosed, rfl,
        rfl, rfl, rfl⟩
  · exact Or.inl h

theorem readChain_ok {options : Options} {depth conditions : Nat} {stream : TokenStream}
    {r : Reading stream} (h : readChain options depth conditions stream = .ok r) :
    ∃ first, readOperand options depth conditions stream = .ok first ∧
      (Join.ofToken? first.rest.current.kind = none ∧ r = first ∨
        ∃ (op : Join) (join : Taken first.rest) (others : Reading join.rest),
          Join.ofToken? first.rest.current.kind = some op ∧
          takeKind first.rest.current.kind first.rest = .ok join ∧
          readChain options depth first.conditions join.rest = .ok others ∧
          r.tree = .join op first.tree others.tree ∧
          r.nodeCount = first.nodeCount + others.nodeCount + 1 ∧
          r.conditions = others.conditions ∧ r.rest = others.rest) := by
  rw [readChain] at h
  obtain ⟨first, hFirst, h⟩ := bind_eq_ok_iff.mp h
  refine ⟨first, hFirst, ?_⟩
  split at h
  · rename_i hNone
    cases h
    exact Or.inl ⟨hNone, rfl⟩
  · rename_i op hSome
    obtain ⟨join, hJoin, h⟩ := bind_eq_ok_iff.mp h
    obtain ⟨others, hOthers, h⟩ := bind_eq_ok_iff.mp h
    cases h
    exact Or.inr ⟨op, join, others, hSome, hJoin, hOthers, rfl, rfl, rfl, rfl⟩

/-! ### What phrases mean -/

/-- The tree of a condition: its field, its operator and the tests that they make together. -/
def Condition.Means (now : Instant) (c : Condition) (tree : Tree) : Prop :=
  ∃ field criteria, Field.ofName? c.name = some field ∧ c.op ∈ field.operators ∧
    c.literal.kind = field.literal ∧ field.criteria now c.op c.literal.value = .ok criteria ∧
    tree = .condition field c.op criteria

theorem Condition.Means.unique {now : Instant} {c : Condition} {tree tree' : Tree}
    (h : c.Means now tree) (h' : c.Means now tree') : tree = tree' := by
  obtain ⟨field, criteria, hField, -, -, hCriteria, rfl⟩ := h
  obtain ⟨field', criteria', hField', -, -, hCriteria', rfl⟩ := h'
  cases hField.symm.trans hField'
  cases hCriteria.symm.trans hCriteria'
  rfl

theorem conditionOf_eq_ok_iff {now : Instant} {name op literal : Token} {tree : Tree} :
    conditionOf now name op literal = .ok tree ↔ ∃ field criteria,
      Field.ofName? name.value = some field ∧ op.kind ∈ field.operators ∧
        literal.kind = field.literal ∧ field.criteria now op.kind literal.value = .ok criteria ∧
        tree = .condition field op.kind criteria := by
  unfold conditionOf
  split
  · rename_i hNone
    simp [hNone]
  · rename_i field hSome
    constructor
    · intro h
      split at h
      · cases h
      · rename_i hOp
        split at h
        · cases h
        · rename_i hLiteral
          split at h
          · rename_i criteria hCriteria
            cases h
            exact ⟨field, criteria, hSome, not_not.mp hOp, not_not.mp hLiteral, hCriteria, rfl⟩
          · cases h
    · rintro ⟨field', criteria, hField, hOp, hLiteral, hCriteria, rfl⟩
      cases hSome.symm.trans hField
      rw [if_neg (not_not.mpr hOp), if_neg (not_not.mpr hLiteral), hCriteria]

namespace Phrase

/-- The tree of a phrase: joins group to the right, and parentheses leave no trace. -/
def Means (now : Instant) : {level : Level} → Phrase level → Tree → Prop
  | _, condition c, tree => c.Means now tree
  | _, group inner, tree => inner.Means now tree
  | _, single operand, tree => operand.Means now tree
  | _, joined first join rest, tree =>
    ∃ left right, first.Means now left ∧ rest.Means now right ∧ tree = .join join left right

variable {level : Level} {now : Instant}

theorem Means.unique {p : Phrase level} {tree tree' : Tree} (h : p.Means now tree)
    (h' : p.Means now tree') : tree = tree' := by
  induction p generalizing tree tree' with
  | condition c => exact Condition.Means.unique h h'
  | group inner ih => exact ih h h'
  | single operand ih => exact ih h h'
  | joined first join rest ihFirst ihRest =>
    obtain ⟨left, right, hLeft, hRight, rfl⟩ := h
    obtain ⟨left', right', hLeft', hRight', rfl⟩ := h'
    rw [ihFirst hLeft hLeft', ihRest hRight hRight']

/-- A phrase means something exactly if its conditions do. -/
theorem exists_means_iff {p : Phrase level} :
    (∃ tree, p.Means now tree) ↔ ∀ c ∈ p.conditions, ∃ tree, c.Means now tree := by
  induction p with
  | condition c => simp [Means, conditions]
  | group inner ih => exact ih
  | single operand ih => exact ih
  | joined first join rest ihFirst ihRest =>
    rw [conditions, List.forall_mem_append, ← ihFirst, ← ihRest]
    constructor
    · rintro ⟨_, left, right, hLeft, hRight, rfl⟩
      exact ⟨⟨left, hLeft⟩, right, hRight⟩
    · rintro ⟨⟨left, hLeft⟩, right, hRight⟩
      exact ⟨_, left, right, hLeft, hRight, rfl⟩

end Phrase

/-! ### What is read is a phrase -/

/-- What reading a phrase comes to, where `depth` groups are open and `conditions` were read
before: its tree and its counts, within the limits, and a token or the end behind it. -/
structure Reading.IsOf {level : Level} {stream : TokenStream} (options : Options)
    (depth conditions : Nat) (p : Phrase level) (r : Reading stream) : Prop where
  takes : stream.Takes p.words r.rest
  means : p.Means options.now r.tree
  nodeCount_eq : r.nodeCount = p.nodeCount
  conditions_eq : r.conditions = conditions + p.conditions.length
  depth_le : depth + p.depth ≤ options.maxDepth
  conditions_le : r.conditions ≤ options.maxConditions
  check : r.rest.check = .ok ()

variable {options : Options}

theorem readCondition_sound {depth conditions : Nat} {stream : TokenStream} {r : Reading stream}
    (hLexical : stream.IsLexical) (hDepth : depth ≤ options.maxDepth)
    (h : readCondition options conditions stream = .ok r) :
    ∃ p : Phrase .operand, r.IsOf options depth conditions p := by
  obtain ⟨hLimit, name, op, literal, hName, hOp, hLiteral, hTree, hNodes, hCount, hRest⟩ :=
    readCondition_ok h
  obtain ⟨hNameTakes, -, hNameKind, -⟩ := take_ok hName
  obtain ⟨hOpTakes, hOpMem, hOperator, -⟩ := take_ok hOp
  obtain ⟨hLiteralTakes, -, hLiteralKind, hCheck⟩ := take_ok hLiteral
  obtain ⟨field, criteria, hField, hOpField, hLiteralField, hCriteria, hTree⟩ :=
    conditionOf_eq_ok_iff.mp hTree
  have hNameWord : name.token.word = ⟨.name, name.token.value⟩ := by
    rw [Token.word, eq_of_beq hNameKind]
  have hOpWord : op.token.word = .symbol op.token.kind :=
    (hNameTakes.isLexical hLexical op.token hOpMem).eq_symbol rfl
      (TokenKind.isSymbol_of_isOperator hOperator)
  refine ⟨.condition ⟨name.token.value, op.token.kind, literal.token.word, hOperator,
    hLiteralKind⟩, ?_, ⟨field, criteria, hField, hOpField, hLiteralField, hCriteria, hTree⟩,
    hNodes, hCount, hDepth, hCount ▸ hLimit, hRest ▸ hCheck⟩
  rw [hRest]
  have := hNameTakes.trans (hOpTakes.trans hLiteralTakes)
  rwa [hNameWord, hOpWord] at this

mutual

/-- A successful reading of an operand is that of a phrase. -/
theorem readOperand_sound {depth conditions : Nat} {stream : TokenStream} {r : Reading stream}
    (hLexical : stream.IsLexical) (hDepth : depth ≤ options.maxDepth)
    (h : readOperand options depth conditions stream = .ok r) :
    ∃ p : Phrase .operand, r.IsOf options depth conditions p := by
  rcases readOperand_ok h with h | ⟨hLimit, opened, inner, closed, hOpened, hInner, hClosed,
    hTree, hNodes, hCount, hRest⟩
  · exact readCondition_sound hLexical hDepth h
  · obtain ⟨hOpenedTakes, hOpenedMem, hOpenedKind, -⟩ := take_ok hOpened
    have hLexicalInner := hOpenedTakes.isLexical hLexical
    have := opened.shorter
    obtain ⟨p, hp⟩ := readChain_sound hLexicalInner hLimit hInner
    obtain ⟨hClosedTakes, hClosedMem, hClosedKind, hCheck⟩ := take_ok hClosed
    have hOpenedWord := (hLexical _ hOpenedMem).eq_symbol (eq_of_beq hOpenedKind) rfl
    have hClosedWord := (hp.takes.isLexical hLexicalInner _ hClosedMem).eq_symbol
      (eq_of_beq hClosedKind) rfl
    refine ⟨.group p, ?_, hTree ▸ hp.means, ?_, hCount.trans hp.conditions_eq, ?_,
      hCount ▸ hp.conditions_le, hRest ▸ hCheck⟩
    · rw [hRest]
      have := hOpenedTakes.trans (hp.takes.trans hClosedTakes)
      rwa [hOpenedWord, hClosedWord] at this
    · rw [hNodes, hp.nodeCount_eq, Phrase.nodeCount]
    · have := hp.depth_le
      rw [Phrase.depth]
      omega
termination_by (stream.size, 0)

/-- A successful reading of a chain is that of a phrase. -/
theorem readChain_sound {depth conditions : Nat} {stream : TokenStream} {r : Reading stream}
    (hLexical : stream.IsLexical) (hDepth : depth ≤ options.maxDepth)
    (h : readChain options depth conditions stream = .ok r) :
    ∃ p : Phrase .chain, r.IsOf options depth conditions p := by
  obtain ⟨first, hFirst, h⟩ := readChain_ok h
  obtain ⟨p, hp⟩ := readOperand_sound hLexical hDepth hFirst
  rcases h with ⟨-, rfl⟩ | ⟨join, joined, others, hJoin, hJoined, hOthers, hTree, hNodes,
    hCount, hRest⟩
  · exact ⟨.single p, hp.takes, hp.means, hp.nodeCount_eq, hp.conditions_eq, hp.depth_le,
      hp.conditions_le, hp.check⟩
  · obtain ⟨hJoinTakes, hJoinMem, hJoinKind, -⟩ := take_ok hJoined
    have hLexicalFirst := hp.takes.isLexical hLexical
    have := first.shorter
    have := joined.shorter
    obtain ⟨q, hq⟩ := readChain_sound (hJoinTakes.isLexical hLexicalFirst) hDepth hOthers
    have hJoinWord : joined.token.word = .symbol join.token :=
      (hLexicalFirst _ hJoinMem).eq_symbol
        ((eq_of_beq hJoinKind).trans (Join.ofToken?_eq_some_iff.mp hJoin)) join.isSymbol_token
    -- The rest of the chain starts with the conditions of `p` counted, so its limit holds for both.
    refine ⟨.joined p join q, ?_, ⟨_, _, hp.means, hq.means, hTree⟩, ?_, ?_, ?_,
      hCount ▸ hq.conditions_le, hRest ▸ hq.check⟩
    · rw [hRest]
      have := hp.takes.trans (hJoinTakes.trans hq.takes)
      rwa [hJoinWord] at this
    · rw [hNodes, hp.nodeCount_eq, hq.nodeCount_eq, Phrase.nodeCount]
    · rw [hCount, hq.conditions_eq, hp.conditions_eq, Phrase.conditions, List.length_append,
        Nat.add_assoc]
    · have := hp.depth_le
      have := hq.depth_le
      rw [Phrase.depth]
      omega
termination_by (stream.size, 1)

end

/-! ### Phrases within the limits are read -/

theorem readCondition_complete {c : Condition} {conditions : Nat} {stream rest : TokenStream}
    (hTakes : stream.Takes c.words rest) (hCheck : rest.check = .ok ())
    (hMeans : ∃ tree, c.Means options.now tree) (hCount : conditions < options.maxConditions) :
    ∃ r, readCondition options conditions stream = .ok r ∧ r.rest = rest ∧
      r.conditions = conditions + 1 := by
  obtain ⟨name, hName, hNameWord, hTakes⟩ :=
    take_of_takes (.token .name) (· == .name) hTakes rfl hCheck
  obtain ⟨op, hOp, hOpWord, hTakes⟩ :=
    take_of_takes .operator TokenKind.isOperator hTakes c.isOperator hCheck
  obtain ⟨literal, hLiteral, hLiteralWord, hTakes⟩ :=
    take_of_takes .literal TokenKind.isLiteral hTakes c.isLiteral hCheck
  obtain ⟨tree, field, criteria, hField, hOpField, hLiteralField, hCriteria, hTree⟩ := hMeans
  have hConditionOf : conditionOf options.now name.token op.token literal.token = .ok tree := by
    have hNameValue : name.token.value = c.name := congrArg Word.value hNameWord
    have hOpKind : op.token.kind = c.op := congrArg Word.kind hOpWord
    rw [conditionOf_eq_ok_iff, hNameValue, hOpKind]
    rw [← hLiteralWord] at hLiteralField hCriteria
    exact ⟨field, criteria, hField, hOpField, hLiteralField, hCriteria, hTree⟩
  refine ⟨⟨tree, 1, conditions + 1, literal.rest, ?_⟩, ?_, hTakes.eq_of_nil, rfl⟩
  · have := name.shorter
    have := op.shorter
    have := literal.shorter
    omega
  · rw [readCondition, if_neg (Nat.not_le.mpr hCount)]
    refine bind_eq_ok_iff.mpr ⟨name, hName, bind_eq_ok_iff.mpr ⟨op, hOp, ?_⟩⟩
    exact bind_eq_ok_iff.mpr ⟨literal, hLiteral, bind_eq_ok_iff.mpr ⟨tree, hConditionOf, rfl⟩⟩

mutual

/-- An operand within the limits is read. -/
theorem readOperand_complete (p : Phrase .operand) {depth conditions : Nat}
    {stream rest : TokenStream} (hTakes : stream.Takes p.words rest)
    (hCheck : rest.check = .ok ()) (hMeans : ∃ tree, p.Means options.now tree)
    (hDepth : depth + p.depth ≤ options.maxDepth)
    (hCount : conditions + p.conditions.length ≤ options.maxConditions) :
    ∃ r, readOperand options depth conditions stream = .ok r ∧ r.rest = rest ∧
      r.conditions = conditions + p.conditions.length := by
  match p with
  | .condition c =>
    have hName : stream.current.kind = .name := hTakes.current_kind
    rw [readOperand, if_neg (by rw [hName]; decide)]
    exact readCondition_complete hTakes hCheck hMeans hCount
  | .group inner =>
    have hOpen : stream.current.kind = .openParen := hTakes.current_kind
    have hDepthInner : depth + 1 + inner.depth ≤ options.maxDepth := by
      rw [Phrase.depth] at hDepth
      omega
    obtain ⟨opened, hOpened, -, hTakesInner⟩ :=
      take_of_takes (.token .openParen) (· == .openParen) hTakes rfl hCheck
    obtain ⟨mid, hTakesInner, hTakesClosed⟩ := hTakesInner.append
    -- The closing parenthesis is what ends the chain inside.
    have hNoJoin : Join.ofToken? mid.current.kind = none := by
      rw [hTakesClosed.current_kind]
      rfl
    obtain ⟨r, hRead, rfl, hConditions⟩ := readChain_complete inner hTakesInner
      (hTakesClosed.check hCheck) hNoJoin hMeans hDepthInner hCount
    obtain ⟨closed, hClosed, -, hRest⟩ :=
      take_of_takes (.token .closeParen) (· == .closeParen) hTakesClosed rfl hCheck
    rw [readOperand, if_pos hOpen, if_neg (by omega)]
    refine ⟨⟨r.tree, r.nodeCount + 1, r.conditions, closed.rest, ?_⟩, ?_, hRest.eq_of_nil,
      hConditions⟩
    · have := opened.shorter
      have := r.shorter
      have := closed.shorter
      omega
    · refine bind_eq_ok_iff.mpr ⟨opened, hOpened, bind_eq_ok_iff.mpr ⟨r, hRead, ?_⟩⟩
      exact bind_eq_ok_iff.mpr ⟨closed, hClosed, rfl⟩
termination_by sizeOf p

/-- A chain within the limits is read if no join comes behind it. -/
theorem readChain_complete (p : Phrase .chain) {depth conditions : Nat}
    {stream rest : TokenStream} (hTakes : stream.Takes p.words rest)
    (hCheck : rest.check = .ok ()) (hNoJoin : Join.ofToken? rest.current.kind = none)
    (hMeans : ∃ tree, p.Means options.now tree) (hDepth : depth + p.depth ≤ options.maxDepth)
    (hCount : conditions + p.conditions.length ≤ options.maxConditions) :
    ∃ r, readChain options depth conditions stream = .ok r ∧ r.rest = rest ∧
      r.conditions = conditions + p.conditions.length := by
  match p with
  | .single operand =>
    obtain ⟨r, hRead, rfl, hConditions⟩ :=
      readOperand_complete operand hTakes hCheck hMeans hDepth hCount
    refine ⟨r, ?_, rfl, hConditions⟩
    rw [readChain]
    refine bind_eq_ok_iff.mpr ⟨r, hRead, ?_⟩
    split
    · rfl
    · rename_i hSome
      cases hNoJoin.symm.trans hSome
  | .joined first join others =>
    obtain ⟨hMeansFirst, hMeansOthers⟩ :
        (∃ tree, first.Means options.now tree) ∧ ∃ tree, others.Means options.now tree := by
      obtain ⟨_, left, right, hLeft, hRight, rfl⟩ := hMeans
      exact ⟨⟨left, hLeft⟩, right, hRight⟩
    obtain ⟨hDepthFirst, hDepthOthers⟩ :
        depth + first.depth ≤ options.maxDepth ∧ depth + others.depth ≤ options.maxDepth := by
      rw [Phrase.depth] at hDepth
      omega
    rw [Phrase.conditions, List.length_append] at hCount ⊢
    have hCountFirst : conditions + first.conditions.length ≤ options.maxConditions := by omega
    obtain ⟨mid, hTakesFirst, hTakesJoin⟩ := hTakes.append
    obtain ⟨r, hFirst, rfl, hConditions⟩ := readOperand_complete first hTakesFirst
      (hTakesJoin.check hCheck) hMeansFirst hDepthFirst hCountFirst
    have hJoinKind : r.rest.current.kind = join.token := hTakesJoin.current_kind
    obtain ⟨joined, hJoined, -, hTakesOthers⟩ := take_of_takes (.token r.rest.current.kind)
      (· == r.rest.current.kind) hTakesJoin (beq_iff_eq.mpr hJoinKind.symm) hCheck
    have hCountOthers : r.conditions + others.conditions.length ≤ options.maxConditions := by
      omega
    obtain ⟨r', hOthers, hRest, hConditions'⟩ := readChain_complete others hTakesOthers hCheck
      hNoJoin hMeansOthers hDepthOthers hCountOthers
    refine ⟨⟨.join join r.tree r'.tree, r.nodeCount + r'.nodeCount + 1, r'.conditions, r'.rest,
      ?_⟩, ?_, hRest, by rw [hConditions', hConditions, Nat.add_assoc]⟩
    · have := r.shorter
      have := joined.shorter
      have := r'.shorter
      omega
    · rw [readChain]
      refine bind_eq_ok_iff.mpr ⟨r, hFirst, ?_⟩
      split
      · rename_i hNone
        cases hNone.symm.trans (Join.ofToken?_eq_some_iff.mpr hJoinKind)
      · rename_i hSome
        cases hSome.symm.trans (Join.ofToken?_eq_some_iff.mpr hJoinKind)
        exact bind_eq_ok_iff.mpr ⟨joined, hJoined, bind_eq_ok_iff.mpr ⟨r', hOthers, rfl⟩⟩
termination_by sizeOf p

end

/-! ### Whole rules -/

/-- Whether a phrase is all of a text, keeps within the limits and is read as the rule. -/
structure Phrase.Yields (options : Options) (text : String) (rule : Rule) (p : Phrase .chain) :
    Prop where
  words_eq : wordsOf text = .ok p.words
  depth_le : p.depth ≤ options.maxDepth
  conditions_le : p.conditions.length ≤ options.maxConditions
  means : p.Means options.now rule.tree
  nodeCount_eq : rule.nodeCount = p.nodeCount
  source_eq : rule.source = text

theorem wordsOf_of_takes {text : String} {words : List Word} {rest : TokenStream}
    (h : (TokenStream.ofText text).Takes words rest) (hSize : rest.size = 0)
    (hCheck : rest.check = .ok ()) : wordsOf text = .ok words := by
  obtain ⟨used, hTokens, rfl, hEnding⟩ := h
  have hNil : rest.tokens = [] := List.length_eq_zero_iff.mp hSize
  rw [wordsOf_eq_ok_iff, hTokens, hNil, List.append_nil, hEnding]
  refine ⟨?_, rfl⟩
  cases hRest : rest.ending with
  | endOfText stop => exact ⟨stop, rfl⟩
  | unrecognized stop => simp [TokenStream.check, hNil, hRest] at hCheck

theorem takes_of_wordsOf {text : String} {words : List Word} (h : wordsOf text = .ok words) :
    ∃ stop, (TokenStream.ofText text).Takes words ⟨[], .endOfText stop⟩ := by
  obtain ⟨⟨stop, hEnding⟩, hWords⟩ := wordsOf_eq_ok_iff.mp h
  exact ⟨stop, _, (List.append_nil _).symm, hWords, hEnding⟩

theorem isLexical_ofText (text : String) : (TokenStream.ofText text).IsLexical :=
  isLexical_of_mem_scanFrom

/-- A text has no more than one phrase and one rule. -/
theorem Phrase.Yields.unique {text : String} {rule rule' : Rule} {p p' : Phrase .chain}
    (h : p.Yields options text rule) (h' : p'.Yields options text rule') :
    p = p' ∧ rule = rule' := by
  obtain rfl : p = p' := by
    have := h.words_eq.symm.trans h'.words_eq
    exact words_injective (Except.ok.inj this)
  refine ⟨rfl, ?_⟩
  obtain ⟨tree, nodeCount, source⟩ := rule
  obtain ⟨tree', nodeCount', source'⟩ := rule'
  rw [Rule.mk.injEq]
  exact ⟨h.means.unique h'.means, h.nodeCount_eq.trans h'.nodeCount_eq.symm,
    h.source_eq.trans h'.source_eq.symm⟩

theorem read_sound {text : String} {rule : Rule} (h : Rule.read options text = .ok rule) :
    checkParens text = .ok () ∧ ∃ p : Phrase .chain, p.Yields options text rule := by
  obtain ⟨_, hParens, h⟩ := bind_eq_ok_iff.mp h
  obtain ⟨_, -, h⟩ := bind_eq_ok_iff.mp h
  obtain ⟨chain, hChain, h⟩ := bind_eq_ok_iff.mp h
  obtain ⟨p, hp⟩ := readChain_sound (isLexical_ofText text) (Nat.zero_le _) hChain
  have hDepth := hp.depth_le
  have hCount := hp.conditions_le
  rw [Nat.zero_add] at hDepth
  rw [hp.conditions_eq, Nat.zero_add] at hCount
  split at h
  · rename_i hSize
    cases h
    exact ⟨hParens, p, wordsOf_of_takes hp.takes hSize hp.check, hDepth, hCount, hp.means,
      hp.nodeCount_eq, rfl⟩
  · cases h

theorem read_complete {text : String} {p : Phrase .chain} (hParens : checkParens text = .ok ())
    (hWords : wordsOf text = .ok p.words) (hMeans : ∃ tree, p.Means options.now tree)
    (hDepth : p.depth ≤ options.maxDepth)
    (hCount : p.conditions.length ≤ options.maxConditions) :
    ∃ rule, Rule.read options text = .ok rule := by
  obtain ⟨stop, hTakes⟩ := takes_of_wordsOf hWords
  rw [← Nat.zero_add p.depth] at hDepth
  rw [← Nat.zero_add p.conditions.length] at hCount
  obtain ⟨chain, hChain, hRest, -⟩ := readChain_complete p hTakes rfl rfl hMeans hDepth hCount
  refine ⟨⟨chain.tree, chain.nodeCount, text⟩, bind_eq_ok_iff.mpr ⟨(), hParens, ?_⟩⟩
  refine bind_eq_ok_iff.mpr ⟨(), hTakes.check rfl, bind_eq_ok_iff.mpr ⟨chain, hChain, ?_⟩⟩
  rw [if_pos (by rw [hRest]; rfl)]
  rfl

end PostSieve.Rule
