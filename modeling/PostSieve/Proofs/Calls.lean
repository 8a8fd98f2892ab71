import PostSieve.Proofs.Consumption

/-! The calls that a parser makes: the log of a reading, with where the parser stands at each call,
and what the parser counts on the way. -/

namespace PostSieve.Rule

/-! ### Calls -/

/-- What is called in the course of a reading, and what goes round in a loop. -/
inductive Routine
  | operand | chain | joined
deriving DecidableEq

/-- A call of a routine, or a turn of the loop behind a join, where `depth` groups are open and the
parser stands somewhere. -/
structure Call where
  routine : Routine
  depth : Nat
  standing : Standing

namespace Call

def isOperand (call : Call) : Bool := call.routine = .operand

/-- Whether a call adds a node to those that are counted, which chains do not. -/
def isCounted (call : Call) : Bool := call.routine ≠ .chain

end Call

/-! ### The log of a reading -/

namespace Parser

mutual

/-- The calls that reading a condition or a group makes, itself in front. -/
def operandCalls (depth : Nat) (p : Parser) : List Call :=
  ⟨.operand, depth, p.standing⟩ ::
    if p.current.kind = .openParen then
      if p.options.maxDepth ≤ depth then []
      else
        match p.expect (.token .openParen) (· == .openParen) rfl with
        | .ok opened => opened.parser.chainCalls (depth + 1)
        | .error _ => []
    else []
termination_by (p.room, 0)
decreasing_by exact Prod.Lex.left _ _ opened.nearer

/-- The calls that reading operands and the joins between them makes, itself in front. -/
def chainCalls (depth : Nat) (p : Parser) : List Call :=
  ⟨.chain, depth, p.standing⟩ :: p.linkedCalls depth
termination_by (p.room, 2)
decreasing_by exact Prod.Lex.right _ (by omega)

/-- The calls that reading an operand and all that is joined to it makes. -/
def linkedCalls (depth : Nat) (p : Parser) : List Call :=
  p.operandCalls depth ++
    match p.operand depth with
    | .ok next => next.parser.othersCalls depth
    | .error _ => []
termination_by (p.room, 1)
decreasing_by
  · exact Prod.Lex.right _ (by omega)
  · exact Prod.Lex.left _ _ next.nearer

/-- The calls that the loop behind an operand makes, its turn in front of those that it makes. -/
def othersCalls (depth : Nat) (p : Parser) : List Call :=
  match h : Join.ofToken? p.current.kind with
  | none => []
  | some _ => ⟨.joined, depth, p.standing⟩ ::
    match p.advance (ne_endOfText_of_join h) with
    | .ok join => join.parser.linkedCalls depth
    | .error _ => []
termination_by (p.room, 0)
decreasing_by exact Prod.Lex.left _ _ join.nearer

end

theorem othersCalls_none {p : Parser} {depth : Nat} (h : Join.ofToken? p.current.kind = none) :
    p.othersCalls depth = [] := by
  rw [othersCalls]
  split
  · rfl
  · rename_i hOp
    cases h.symm.trans hOp

theorem othersCalls_some {p : Parser} {depth : Nat} {op : Join}
    (h : Join.ofToken? p.current.kind = some op) :
    p.othersCalls depth = ⟨.joined, depth, p.standing⟩ ::
      match p.advance (ne_endOfText_of_join h) with
      | .ok join => join.parser.linkedCalls depth
      | .error _ => [] := by
  rw [othersCalls]
  split
  · rename_i hNone
    cases hNone.symm.trans h
  · rfl

/-- The calls that a reading of the whole text makes, if it comes to the first one. -/
def calls (p : Parser) : List Call :=
  match checkParens p.cursor.text with
  | .error _ => []
  | .ok () =>
    match p.cursor.reset.next with
    | .error _ => []
    | .ok (token, cursor) =>
      chainCalls 0 { p with cursor, current := token, nodeCount := 0, conditionCount := 0 }

/-- A loop that comes to its end has taken a join and read an operand in each of its turns. -/
theorem others_ok {p : Parser} {depth : Nat} {pending : List (Tree × Join)} {tree : Tree}
    {op : Join} {last : { r : Tree × Parser // r.2.room ≤ p.room }}
    (hOp : Join.ofToken? p.current.kind = some op)
    (h : p.others depth pending tree = .ok last) :
    ∃ join next, p.advance (ne_endOfText_of_join hOp) = .ok join ∧
      join.parser.operand depth = .ok next ∧
      ∃ last', next.parser.others depth ((tree, op) :: pending) next.value = .ok last' ∧
        last'.1 = last.1 := by
  rw [others] at h
  split at h
  case h_1 hNone => cases hNone.symm.trans hOp
  case h_2 op' hOp' =>
    obtain rfl : op' = op := Option.some.inj (hOp'.symm.trans hOp)
    obtain ⟨join, hJoin, h⟩ := bind_eq_ok_iff.mp h
    obtain ⟨next, hNext, h⟩ := bind_eq_ok_iff.mp h
    obtain ⟨last', hLast', h⟩ := bind_eq_ok_iff.mp h
    cases h
    exact ⟨join, next, hJoin, hNext, last', hLast', rfl⟩

/-! ### The counts of a parser and its calls -/

section Counts

variable {p : Parser}

theorem counts_advance {hKind : p.current.kind ≠ .endOfText} {step : Step Token p}
    (h : p.advance hKind = .ok step) :
    step.parser.nodeCount = p.nodeCount ∧ step.parser.conditionCount = p.conditionCount := by
  unfold Parser.advance at h
  split at h <;> cases h
  exact ⟨rfl, rfl⟩

theorem parser_advance {hKind : p.current.kind ≠ .endOfText} {stop : Stop}
    (h : p.advance hKind = .error stop) : stop.parser = p := by
  unfold Parser.advance at h
  split at h <;> cases h
  rfl

variable {expected : Expected} {accepts : TokenKind → Bool} {hEnd : accepts .endOfText = false}

theorem counts_expect {step : Step Token p} (h : p.expect expected accepts hEnd = .ok step) :
    step.parser.nodeCount = p.nodeCount ∧ step.parser.conditionCount = p.conditionCount := by
  unfold Parser.expect at h
  split at h
  · exact counts_advance h
  · cases h

theorem parser_expect {stop : Stop} (h : p.expect expected accepts hEnd = .error stop) :
    stop.parser = p := by
  unfold Parser.expect at h
  split at h
  · exact parser_advance h
  · cases h
    rfl

theorem nodeCount_condition {step : Step Tree p} (h : p.condition = .ok step) :
    step.parser.nodeCount = p.nodeCount := by
  unfold Parser.condition at h
  dsimp only at h
  split at h
  · cases h
  · obtain ⟨name, hName, h⟩ := bind_eq_ok_iff.mp h
    obtain ⟨op, hOp, h⟩ := bind_eq_ok_iff.mp h
    obtain ⟨literal, hLiteral, h⟩ := bind_eq_ok_iff.mp h
    split at h
    · cases h
      exact (counts_expect hLiteral).1.trans
        ((counts_expect hOp).1.trans (counts_expect hName).1)
    · cases h

end Counts

-- The log goes through the cases of the parser, so both laws about the two follow the recursion of
-- the parser. The joins behind pending operands are counted only when the loop ends, all at once.
mutual

theorem nodeCount_operand {p : Parser} {depth : Nat} {step : Step Tree p}
    (h : p.operand depth = .ok step) : step.parser.nodeCount =
      p.nodeCount + (p.operandCalls depth).countP Call.isCounted := by
  rw [operand] at h
  rw [operandCalls]
  split at h
  · split at h
    · cases h
    · rename_i hOpen hDepth
      obtain ⟨opened, hOpened, h⟩ := bind_eq_ok_iff.mp h
      obtain ⟨inner, hInner, h⟩ := bind_eq_ok_iff.mp h
      obtain ⟨closed, hClosed, h⟩ := bind_eq_ok_iff.mp h
      cases h
      have := opened.nearer
      have hChain := nodeCount_chain hInner
      rw [if_pos hOpen, if_neg hDepth, hOpened, List.countP_cons_of_pos (by rfl)]
      show closed.parser.nodeCount + 1 = _
      rw [(counts_expect hClosed).1, hChain, (counts_expect hOpened).1]
      rfl
  · rename_i hOpen
    obtain ⟨read, hRead, h⟩ := bind_eq_ok_iff.mp h
    cases h
    rw [if_neg hOpen]
    exact congrArg (· + 1) (nodeCount_condition hRead)
termination_by (p.room, 0)

theorem nodeCount_chain {p : Parser} {depth : Nat} {step : Step Tree p}
    (h : p.chain depth = .ok step) : step.parser.nodeCount =
      p.nodeCount + (p.chainCalls depth).countP Call.isCounted := by
  rw [chain] at h
  obtain ⟨first, hFirst, h⟩ := bind_eq_ok_iff.mp h
  obtain ⟨⟨⟨tree, last⟩, hLe⟩, hLast, h⟩ := bind_eq_ok_iff.mp h
  cases h
  rw [chainCalls, List.countP_cons_of_neg Bool.false_ne_true]
  exact nodeCount_linked hFirst hLast
termination_by (p.room, 2)

theorem nodeCount_linked {p : Parser} {depth : Nat} {first : Step Tree p}
    {pending : List (Tree × Join)} {tree : Tree}
    {last : { r : Tree × Parser // r.2.room ≤ first.parser.room }}
    (hFirst : p.operand depth = .ok first)
    (hLast : first.parser.others depth pending tree = .ok last) : last.1.2.nodeCount =
      p.nodeCount + (p.linkedCalls depth).countP Call.isCounted + pending.length := by
  have := first.nearer
  have hOperand := nodeCount_operand hFirst
  have hOthers := nodeCount_others hLast
  rw [linkedCalls, hFirst, List.countP_append]
  dsimp only
  omega
termination_by (p.room, 1)

theorem nodeCount_others {p : Parser} {depth : Nat} {pending : List (Tree × Join)} {tree : Tree}
    {last : { r : Tree × Parser // r.2.room ≤ p.room }}
    (h : p.others depth pending tree = .ok last) : last.1.2.nodeCount =
      p.nodeCount + (p.othersCalls depth).countP Call.isCounted + pending.length := by
  cases hJoin : Join.ofToken? p.current.kind with
  | none =>
    rw [others] at h
    split at h
    · cases h
      rw [othersCalls_none hJoin]
      rfl
    · rename_i hOp
      cases hJoin.symm.trans hOp
  | some op =>
    obtain ⟨join, next, hAdvance, hNext, last', hLast', hEq⟩ := others_ok hJoin h
    have := join.nearer
    have hLinked := nodeCount_linked hNext hLast'
    rw [othersCalls_some hJoin, hAdvance, List.countP_cons_of_pos (by rfl), ← hEq, hLinked,
      (counts_advance hAdvance).1, List.length_cons]
    dsimp only
    omega
termination_by (p.room, 0)

end

/-- The parser that a reading leaves, behind what it has read or at a fault. -/
def left {α : Type} (behind : α → Parser) : Except Stop α → Parser
  | .ok value => behind value
  | .error stop => stop.parser

theorem conditionCount_bind_le {α β : Type} {behind : α → Parser} {behind' : β → Parser}
    {first : Except Stop α} {next : α → Except Stop β} {n : Nat}
    (h : (left behind first).conditionCount ≤ n)
    (hNext : ∀ value, first = .ok value → (behind value).conditionCount ≤ n →
      (left behind' (next value)).conditionCount ≤ n) :
    (left behind' (first >>= next)).conditionCount ≤ n := by
  cases first with
  | ok value => exact hNext value rfl h
  | error stop => exact h

theorem conditionCount_advance {p : Parser} (hKind : p.current.kind ≠ .endOfText) :
    (left Step.parser (p.advance hKind)).conditionCount = p.conditionCount := by
  cases hStep : p.advance hKind with
  | ok step => exact (counts_advance hStep).2
  | error stop => exact congrArg conditionCount (parser_advance hStep)

theorem conditionCount_expect (p : Parser) (expected : Expected) (accepts : TokenKind → Bool)
    (hEnd : accepts .endOfText = false) :
    (left Step.parser (p.expect expected accepts hEnd)).conditionCount = p.conditionCount := by
  cases hStep : p.expect expected accepts hEnd with
  | ok step => exact (counts_expect hStep).2
  | error stop => exact congrArg conditionCount (parser_expect hStep)

theorem conditionCount_condition_le (p : Parser) :
    (left Step.parser p.condition).conditionCount ≤ p.conditionCount + 1 := by
  unfold Parser.condition
  dsimp only
  split
  · exact Nat.le_succ _
  refine conditionCount_bind_le (conditionCount_expect ..).le fun name _ hName => ?_
  refine conditionCount_bind_le ((conditionCount_expect ..).trans_le hName) fun op _ hOp => ?_
  refine conditionCount_bind_le ((conditionCount_expect ..).trans_le hOp) fun literal _ hLe => ?_
  split <;> exact hLe

mutual

theorem conditionCount_operand_le (p : Parser) (depth : Nat) :
    (left Step.parser (p.operand depth)).conditionCount ≤
      p.conditionCount + (p.operandCalls depth).countP Call.isOperand := by
  rw [operand, operandCalls, List.countP_cons_of_pos (by rfl)]
  split
  · split
    · exact Nat.le_add_right _ _
    · refine conditionCount_bind_le
        ((conditionCount_expect ..).trans_le (Nat.le_add_right _ _)) fun opened hOpened _ => ?_
      have := opened.nearer
      have hChain := conditionCount_chain_le opened.parser (depth + 1)
      rw [(counts_expect hOpened).2] at hChain
      rw [hOpened]
      refine conditionCount_bind_le (hChain.trans (Nat.le_succ _)) fun inner _ hInner => ?_
      exact conditionCount_bind_le ((conditionCount_expect ..).trans_le hInner)
        fun closed _ hClosed => hClosed
  · exact conditionCount_bind_le (conditionCount_condition_le p) fun read _ hRead => hRead
termination_by (p.room, 0)

theorem conditionCount_chain_le (p : Parser) (depth : Nat) :
    (left Step.parser (p.chain depth)).conditionCount ≤
      p.conditionCount + (p.chainCalls depth).countP Call.isOperand := by
  rw [chain, chainCalls, List.countP_cons_of_neg Bool.false_ne_true]
  refine conditionCount_linked_le p depth fun first => ?_
  have := first.nearer
  exact conditionCount_bind_le (conditionCount_others_le first.parser depth [] first.value)
    fun last _ hLast => hLast
termination_by (p.room, 2)

/-- What goes on behind an operand is the loop, or anything else that counts no more conditions. -/
theorem conditionCount_linked_le (p : Parser) (depth : Nat) {α : Type} {behind : α → Parser}
    {next : Step Tree p → Except Stop α}
    (h : ∀ first, (left behind (next first)).conditionCount ≤
      first.parser.conditionCount + (first.parser.othersCalls depth).countP Call.isOperand) :
    (left behind (p.operand depth >>= next)).conditionCount ≤
      p.conditionCount + (p.linkedCalls depth).countP Call.isOperand := by
  have hOperand := conditionCount_operand_le p depth
  rw [linkedCalls, List.countP_append]
  cases hFirst : p.operand depth with
  | ok first =>
    rw [hFirst] at hOperand
    have hNext := h first
    show (left behind (next first)).conditionCount ≤ _
    have hOperand : first.parser.conditionCount ≤ _ := hOperand
    dsimp only
    omega
  | error stop =>
    rw [hFirst] at hOperand
    exact hOperand
termination_by (p.room, 1)

theorem conditionCount_others_le (p : Parser) (depth : Nat) (pending : List (Tree × Join))
    (tree : Tree) : (left (·.1.2) (p.others depth pending tree)).conditionCount ≤
      p.conditionCount + (p.othersCalls depth).countP Call.isOperand := by
  rw [others]
  split
  case h_1 hNone =>
    rw [othersCalls_none hNone]
    exact Nat.le_refl _
  case h_2 op hOp =>
    rw [othersCalls_some hOp, List.countP_cons_of_neg Bool.false_ne_true]
    refine conditionCount_bind_le
      ((conditionCount_advance _).trans_le (Nat.le_add_right _ _)) fun join hJoin _ => ?_
    have := join.nearer
    rw [hJoin, ← (counts_advance hJoin).2]
    refine conditionCount_linked_le join.parser depth fun next => ?_
    have := next.nearer
    exact conditionCount_bind_le (conditionCount_others_le next.parser depth _ next.value)
      fun last _ hLast => hLast
termination_by (p.room, 0)

end

/-- A reading of a rule counts a node for each call but those of chains. -/
theorem nodeCount_parse {p q : Parser} {rule : Rule} (h : p.parse = (.ok rule, q)) :
    rule.nodeCount = p.calls.countP Call.isCounted := by
  obtain ⟨hParens, token, cursor, root, hNext, hRoot, rfl, -, hNodes⟩ := exists_chain_of_parse h
  rw [hNodes, nodeCount_chain hRoot, calls, hParens]
  dsimp only
  rw [hNext]
  exact Nat.zero_add _

/-- A reading, wherever it ends, has counted no more conditions than operands were called for. -/
theorem conditionCount_parse_le {p : Parser} (h : checkParens p.cursor.text = .ok ()) :
    p.parse.2.conditionCount ≤ p.calls.countP Call.isOperand := by
  rw [parse, calls, h]
  dsimp only
  cases hNext : p.cursor.reset.next with
  | error cause => exact Nat.zero_le _
  | ok taken =>
    have hChain := conditionCount_chain_le ⟨p.options, taken.2, taken.1, 0, 0⟩ 0
    rw [Nat.zero_add] at hChain
    dsimp only
    cases hRoot : chain 0 ⟨p.options, taken.2, taken.1, 0, 0⟩ with
    | error stop =>
      rw [hRoot] at hChain
      exact hChain
    | ok root =>
      rw [hRoot] at hChain
      dsimp only
      split <;> exact hChain

end Parser

end PostSieve.Rule
