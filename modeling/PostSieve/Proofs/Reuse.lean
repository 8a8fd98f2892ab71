import PostSieve.Proofs.Reading
import PostSieve.Rule.Parser

/-! The reuse of a parser: each reading of a text is that of a parser that has not been used,
whatever was read before and wherever it stopped. -/

namespace PostSieve.Rule

/-! ### The next token -/

/-- A cursor takes the first token of its stream, or fails where the stream fails its check. -/
theorem Cursor.next_both (c : Cursor) :
    Both Eq (fun r _ => r.1 = c.stream.current ∧ r.2.text = c.text ∧
        r.2.stream = ⟨c.stream.tokens.tail, c.stream.ending⟩) c.next c.stream.check := by
  cases hScan : scan TokenKind.scanned c.position c.rest with
  | stopped ending =>
    have hStream : c.stream = ⟨[], ending⟩ := TokenStream.scanFrom_stopped hScan
    rw [next, hScan, hStream]
    cases ending with
    | endOfText position => exact .ok ⟨rfl, rfl, hStream⟩
    | unrecognized position => exact .error rfl
  | token token rest =>
    have hStream : c.stream = _ := TokenStream.scanFrom_token hScan
    rw [next, hScan, hStream]
    exact .ok ⟨rfl, rfl, rfl⟩

theorem Cursor.isLexical_stream (c : Cursor) : c.stream.IsLexical := isLexical_of_mem_scanFrom

/-! ### A parser in a stream -/

namespace Parser

/-- Whether a parser with the given counts has the first token of a stream at hand, and is about to
read what comes behind it. -/
structure IsAt (options : Options) (text : String) (nodes conditions : Nat) (stream : TokenStream)
    (p : Parser) : Prop where
  options_eq : p.options = options
  text_eq : p.cursor.text = text
  nodeCount_eq : p.nodeCount = nodes
  conditionCount_eq : p.conditionCount = conditions
  current_eq : p.current = stream.current
  stream_eq : p.cursor.stream = ⟨stream.tokens.tail, stream.ending⟩
  check : stream.check = .ok ()
  isLexical : stream.IsLexical

/-- Whether a parser stopped for a cause, with its options and its text as they were. -/
structure StopsFor (options : Options) (text : String) (stop : Stop) (cause : RuleError) :
    Prop where
  cause_eq : stop.cause = cause
  options_eq : stop.parser.options = options
  text_eq : stop.parser.cursor.text = text

variable {options : Options} {text : String} {nodes conditions : Nat} {stream : TokenStream}
  {p : Parser}

theorem IsAt.stops (h : IsAt options text nodes conditions stream p) (cause : RuleError) :
    StopsFor options text ⟨cause, p⟩ cause := ⟨rfl, h.options_eq, h.text_eq⟩

theorem IsAt.kind_eq_iff (h : IsAt options text nodes conditions stream p) :
    p.current.kind = .endOfText ↔ stream.tokens = [] := by
  rw [h.current_eq, TokenStream.current]
  cases hTokens : stream.tokens with
  | nil => simp [Token.endAt]
  | cons token tokens =>
    have hLexical : token.word.IsLexical := h.isLexical token (by simp [hTokens])
    simp [hLexical.kind_ne]

/-- A parser that takes up the next token stands in the stream behind the one at hand. -/
theorem IsAt.advance (h : IsAt options text nodes conditions stream p)
    (hKind : p.current.kind ≠ .endOfText) :
    Both (StopsFor options text) (fun step _ => step.value = stream.current ∧
        IsAt options text nodes conditions p.cursor.stream step.parser)
      (p.advance hKind) p.cursor.stream.check := by
  have hNext := p.cursor.next_both
  generalize hCheck : p.cursor.stream.check = check at hNext ⊢
  unfold Parser.advance
  split
  · rename_i hOk
    rw [hOk] at hNext
    cases hNext with
    | ok hTaken =>
      obtain ⟨hToken, hText, hStream⟩ := hTaken
      exact .ok ⟨h.current_eq, h.options_eq, hText.trans h.text_eq, h.nodeCount_eq,
        h.conditionCount_eq, hToken, hStream, hCheck, p.cursor.isLexical_stream⟩
  · rename_i cause hError
    rw [hError] at hNext
    cases hNext with
    | error hCause => exact .error (hCause ▸ h.stops cause)

theorem IsAt.expect (h : IsAt options text nodes conditions stream p) (expected : Expected)
    (accepts : TokenKind → Bool) (hEnd : accepts .endOfText = false) :
    Both (StopsFor options text) (fun step taken => step.value = taken.token ∧
        IsAt options text nodes conditions taken.rest step.parser)
      (p.expect expected accepts hEnd) (take expected accepts stream) := by
  have hEmpty := h.kind_eq_iff
  have hCurrent := h.current_eq
  have hStream := h.stream_eq
  obtain ⟨tokens, ending⟩ := stream
  cases tokens with
  | nil =>
    have hRejects : ¬ accepts p.current.kind = true := by
      rw [hEmpty.mpr rfl, hEnd]
      exact Bool.false_ne_true
    rw [Parser.expect, dif_neg hRejects, hCurrent]
    exact .error (h.stops _)
  | cons token tokens =>
    obtain hCurrent : p.current = token := hCurrent
    obtain hStream : p.cursor.stream = ⟨tokens, ending⟩ := hStream
    have hAdvance := h.advance fun hKind => List.cons_ne_nil _ _ (hEmpty.mp hKind)
    rw [hStream] at hAdvance
    simp only [Parser.expect, take]
    split
    · rename_i hAccepts
      rw [if_pos (hCurrent ▸ hAccepts)]
      exact hAdvance.bind_right fun step _ hStep => .ok hStep
    · rename_i hRejects
      rw [if_neg (hCurrent ▸ hRejects), hCurrent]
      exact .error (h.stops _)

theorem advance_eq_expect (hKind : p.current.kind ≠ .endOfText) (expected : Expected) :
    p.advance hKind =
      p.expect expected (· == p.current.kind) (beq_eq_false_iff_ne.mpr hKind.symm) := by
  rw [Parser.expect, dif_pos (beq_self_eq_true _)]

theorem IsAt.condition (h : IsAt options text nodes conditions stream p) :
    Both (StopsFor options text) (fun step r => step.value = r.tree ∧
        IsAt options text (nodes + r.nodeCount) r.conditions r.rest (step.parser.countNodes 1))
      p.condition (readCondition options conditions stream) := by
  obtain rfl := h.options_eq
  obtain rfl := h.conditionCount_eq
  unfold Parser.condition readCondition
  dsimp only
  split
  · rw [← h.current_eq]
    exact .error (h.stops _)
  · have hCounted : IsAt p.options text nodes (p.conditionCount + 1) stream
        { p with conditionCount := p.conditionCount + 1 } := { h with conditionCount_eq := rfl }
    refine (hCounted.expect _ _ _).bind fun name name' hName => ?_
    refine (hName.2.expect _ _ _).bind fun op op' hOp => ?_
    refine (hOp.2.expect _ _ _).bind fun literal literal' hLiteral => ?_
    rw [hName.1, hOp.1, hLiteral.1]
    split
    · rename_i tree hTree
      rw [hTree]
      exact .ok ⟨rfl, { hLiteral.2 with
        nodeCount_eq := congrArg (· + 1) hLiteral.2.nodeCount_eq }⟩
    · rename_i cause hCause
      rw [hCause]
      exact .error (hLiteral.2.stops cause)

/-! ### Chains -/

theorem shorter_of_join {first : Reading stream} (join : Taken first.rest)
    (others : Reading join.rest) : others.rest.size < stream.size := by
  have := first.shorter
  have := join.shorter
  have := others.shorter
  omega

/-- What reading a chain comes to once its first operand has been read. -/
def chainFrom (options : Options) (depth : Nat) (first : Reading stream) :
    Except RuleError (Reading stream) :=
  match Join.ofToken? first.rest.current.kind with
  | none => .ok first
  | some op => do
    let join ← takeKind first.rest.current.kind first.rest
    let others ← readChain options depth first.conditions join.rest
    return ⟨.join op first.tree others.tree, first.nodeCount + others.nodeCount + 1,
      others.conditions, others.rest, shorter_of_join join others⟩

theorem readChain_eq_bind (options : Options) (depth conditions : Nat) (stream : TokenStream) :
    readChain options depth conditions stream =
      readOperand options depth conditions stream >>= chainFrom options depth := by
  rw [readChain]
  rfl

-- The recursion follows the parser: the room it has left gets less with each token, whereas the
-- stream at hand is the same one while an operand is being looked for.
mutual

theorem IsAt.operand {p : Parser} {nodes conditions depth : Nat} {stream : TokenStream}
    (h : IsAt options text nodes conditions stream p) :
    Both (StopsFor options text) (fun step r => step.value = r.tree ∧
        IsAt options text (nodes + r.nodeCount) r.conditions r.rest step.parser)
      (p.operand depth) (readOperand options depth conditions stream) := by
  rw [Parser.operand, readOperand, ← h.current_eq, h.options_eq]
  split
  · split
    · exact .error (h.stops _)
    · refine (h.expect _ _ _).bind fun opened opened' hOpened => ?_
      have := opened.nearer
      refine hOpened.2.chain.bind fun inner inner' hInner => ?_
      refine (hInner.2.expect _ _ _).bind fun closed closed' hClosed => ?_
      exact .ok ⟨hInner.1, { hClosed.2 with
        nodeCount_eq := congrArg (· + 1) hClosed.2.nodeCount_eq }⟩
  · exact h.condition.bind_left fun step _ hStep => .ok hStep
termination_by (p.room, 0)

theorem IsAt.chain {p : Parser} {nodes conditions depth : Nat} {stream : TokenStream}
    (h : IsAt options text nodes conditions stream p) :
    Both (StopsFor options text) (fun step r => step.value = r.tree ∧
        IsAt options text (nodes + r.nodeCount) r.conditions r.rest step.parser)
      (p.chain depth) (readChain options depth conditions stream) := by
  rw [Parser.chain, readChain_eq_bind]
  refine h.operand.bind fun first first' hFirst => ?_
  have := first.nearer
  rw [hFirst.1]
  exact hFirst.2.others.bind_left fun last _ hLast => .ok hLast
termination_by (p.room, 2)

/-- The operands in front are those of a chain whose others are being read. -/
theorem IsAt.others {p : Parser} {nodes depth : Nat} {stream : TokenStream}
    {pending : List (Tree × Join)} {first : Reading stream}
    (h : IsAt options text (nodes + first.nodeCount) first.conditions first.rest p) :
    Both (StopsFor options text) (fun step r => step.1.1 = joinAll pending r.tree ∧
        IsAt options text (nodes + r.nodeCount + pending.length) r.conditions r.rest step.1.2)
      (p.others depth pending first.tree) (chainFrom options depth first) := by
  rw [Parser.others, chainFrom, ← h.current_eq]
  split
  · rename_i hNone
    rw [hNone]
    exact .ok ⟨rfl, { h with nodeCount_eq := congrArg (· + pending.length) h.nodeCount_eq }⟩
  · rename_i op hOp
    simp only [hOp]
    -- The stream takes a join as it takes any token of an expected kind.
    rw [advance_eq_expect _ (.token p.current.kind)]
    refine (h.expect _ _ _).bind fun join join' hJoin => ?_
    have := join.nearer
    rw [readChain_eq_bind, bind_assoc]
    refine hJoin.2.operand.bind fun next next' hNext => ?_
    have := next.nearer
    rw [hNext.1]
    refine hNext.2.others.bind fun last last' hLast => ?_
    refine .ok ⟨hLast.1, { hLast.2 with nodeCount_eq := ?_ }⟩
    rw [hLast.2.nodeCount_eq, List.length_cons]
    dsimp only
    omega
termination_by (p.room, 1)

end

/-! ### Rules -/

/-- A parser that goes back to the front of its text has all tokens to come, and no counts. -/
theorem isAt_first (p : Parser) :
    Both Eq (fun taken _ => IsAt p.options p.cursor.text 0 0 (.ofText p.cursor.text)
        ⟨p.options, taken.2, taken.1, 0, 0⟩)
      p.cursor.reset.next (TokenStream.ofText p.cursor.text).check := by
  have hNext : Both _ _ p.cursor.reset.next (TokenStream.ofText p.cursor.text).check :=
    p.cursor.reset.next_both
  generalize hCheck : (TokenStream.ofText p.cursor.text).check = check at hNext ⊢
  generalize p.cursor.reset.next = next at hNext ⊢
  cases hNext with
  | error hCause => exact .error hCause
  | ok hTaken =>
    obtain ⟨hToken, hText, hStream⟩ := hTaken
    exact .ok ⟨rfl, hText, rfl, rfl, hToken, hStream, hCheck, p.cursor.reset.isLexical_stream⟩

/-- A reading depends on the options and the text alone, and leaves both as they are, also where it
fails. -/
theorem parse_spec (p : Parser) :
    p.parse.1 = Rule.read p.options p.cursor.text ∧ p.parse.2.options = p.options ∧
      p.parse.2.cursor.text = p.cursor.text := by
  -- Both sides fail for unbalanced parentheses, for the first token, within the chain or behind it.
  rw [Parser.parse, Rule.read]
  cases checkParens p.cursor.text with
  | error cause => exact ⟨rfl, rfl, rfl⟩
  | ok _ =>
    have hFirst := p.isAt_first
    dsimp only [bind, Except.bind]
    generalize p.cursor.reset.next = next at hFirst
    generalize (TokenStream.ofText p.cursor.text).check = check at hFirst
    cases hFirst with
    | error hCause => exact ⟨congrArg Except.error hCause, rfl, rfl⟩
    | ok hAt =>
      have hChain : Both _ _ (chain 0 _) (readChain p.options 0 0 _) := hAt.chain
      dsimp only
      generalize chain 0 _ = root at hChain
      generalize readChain p.options 0 0 _ = chain at hChain
      cases hChain with
      | error hStop =>
        exact ⟨congrArg Except.error hStop.cause_eq, hStop.options_eq, hStop.text_eq⟩
      | @ok root chain hRoot =>
        obtain ⟨hTree, hEnd⟩ := hRoot
        have hIff : root.parser.current.kind = .endOfText ↔ chain.rest.size = 0 :=
          hEnd.kind_eq_iff.trans List.length_eq_zero_iff.symm
        have hCount : root.parser.nodeCount = chain.nodeCount :=
          hEnd.nodeCount_eq.trans (Nat.zero_add _)
        dsimp only
        by_cases hSize : chain.rest.size = 0
        · rw [if_pos (hIff.mpr hSize), if_pos hSize, hTree, hCount]
          exact ⟨rfl, hEnd.options_eq, hEnd.text_eq⟩
        · rw [if_neg (hSize ∘ hIff.mp), if_neg hSize, hEnd.current_eq]
          exact ⟨rfl, hEnd.options_eq, hEnd.text_eq⟩

/-! ### The use of a parser -/

/-- What can be done with a parser. -/
inductive Operation
  | parse
  | reset (text : String)

namespace Operation

/-- The text that an operation turns to. -/
def text? : Operation → Option String
  | parse => none
  | reset text => some text

/-- What an operation leaves of a parser. -/
def next (op : Operation) (p : Parser) : Parser :=
  match op with
  | parse => p.parse.2
  | reset text => p.reset text

/-- What an operation gives, which is nothing unless it reads. -/
def answer (op : Operation) (p : Parser) : Option (Except RuleError Rule) :=
  match op with
  | parse => some p.parse.1
  | reset _ => none

end Operation

/-- The answers to operations that are done with a parser one after another. -/
def answers : Parser → List Operation → List (Option (Except RuleError Rule))
  | _, [] => []
  | p, op :: ops => op.answer p :: answers (op.next p) ops

/-- The text that operations turn to last, or `start` if they turn to none. -/
def latestText (start : String) (ops : List Operation) : String :=
  (ops.filterMap Operation.text?).getLast?.getD start

theorem latestText_cons (start : String) (op : Operation) (ops : List Operation) :
    latestText start (op :: ops) = latestText (latestText start [op]) ops := by
  cases op with
  | parse => rfl
  | reset text => simp [latestText, Operation.text?, List.getLast?_cons]

/-- What an operation gives depends on the options and the text of a parser alone. -/
theorem Operation.answer_eq (op : Operation) (p : Parser) :
    op.answer p = op.answer (start p.options p.cursor.text) := by
  cases op with
  | parse => exact congrArg some (p.parse_spec.1.trans (parse_spec (start _ _)).1.symm)
  | reset text => rfl

theorem Operation.next_text (op : Operation) (p : Parser) :
    (op.next p).options = p.options ∧
      (op.next p).cursor.text = latestText p.cursor.text [op] := by
  cases op with
  | parse => exact p.parse_spec.2
  | reset text => exact ⟨rfl, rfl⟩

theorem answers_eq (p : Parser) (ops : List Operation) :
    p.answers ops = ops.mapIdx fun i op =>
      op.answer (start p.options (latestText p.cursor.text (ops.take i))) := by
  induction ops generalizing p with
  | nil => rfl
  | cons op ops ih =>
    obtain ⟨hOptions, hText⟩ := op.next_text p
    have hRest (i : Nat) : latestText p.cursor.text ((op :: ops).take (i + 1)) =
        latestText (op.next p).cursor.text (ops.take i) := by
      rw [List.take_succ_cons, latestText_cons, hText]
    simp only [answers, ih, List.mapIdx_cons, hRest, hOptions]
    rw [op.answer_eq p]
    rfl

/-- Nothing is left behind by the use of a parser: in any sequence of readings and of turns to other
texts, each reading gives what it gives with a parser that has not been used, with the same options
and with the text turned to last, be it a rule or an error. That is the reading of the text as such.
-/
theorem answers_start (options : Options) (text : String) (ops : List Operation) :
    (start options text).answers ops = (ops.mapIdx fun i op =>
      op.answer (start options (latestText text (ops.take i)))) ∧
    ∀ other, (start options other).parse.1 = Rule.read options other :=
  ⟨answers_eq (start options text) ops, fun other => (parse_spec (start options other)).1⟩

end Parser

end PostSieve.Rule
