import PostSieve.Rule.Reading

/-! A parser that can be used again and again. It reads a rule token by token from a cursor and
counts as it goes, and a fault leaves it where it was found, be it in the middle of a rule. -/

namespace PostSieve.Rule

/-- A parser: what reading depends on, the place behind the token at hand, that token, and the
numbers of nodes and of conditions counted so far. -/
structure Parser where
  options : Options
  cursor : Cursor
  current : Token := .endAt 0
  nodeCount : Nat := 0
  conditionCount : Nat := 0

namespace Parser

/-- A parser that has not been used. -/
def start (options : Options) (text : String) : Parser := { options, cursor := .start text }

/-- Turns to another text. -/
def reset (p : Parser) (text : String) : Parser :=
  { p with cursor := .start text, current := .endAt 0, nodeCount := 0, conditionCount := 0 }

def countNodes (p : Parser) (count : Nat) : Parser := { p with nodeCount := p.nodeCount + count }

/-- More than the characters that are to be read, unless the token at hand is the end. -/
def room (p : Parser) : Nat :=
  p.cursor.rest.length + if p.current.kind = .endOfText then 0 else 1

/-- Why a parser stopped, and how it was left. -/
structure Stop where
  cause : RuleError
  parser : Parser

/-- What a parser has read, and the parser behind it, which is nearer to the end. -/
structure Step (α : Type) (p : Parser) where
  value : α
  parser : Parser
  nearer : parser.room < p.room

theorem room_next_lt {p : Parser} {token : Token} {cursor : Cursor}
    (h : p.current.kind ≠ .endOfText) (hNext : p.cursor.next = .ok (token, cursor)) :
    room { p with cursor, current := token } < p.room := by
  unfold Cursor.next at hNext
  simp only [room, if_neg h]
  split at hNext
  · cases hNext
    exact Nat.lt_succ_self _
  · cases hNext
  · rename_i hScan
    have := length_lt_of_scan hScan
    cases hNext
    simp only
    split <;> omega

/-- Gives the token at hand and takes the next one. -/
def advance (p : Parser) (h : p.current.kind ≠ .endOfText) : Except Stop (Step Token p) :=
  match hNext : p.cursor.next with
  | .ok (token, cursor) =>
    .ok ⟨p.current, { p with cursor, current := token }, room_next_lt h hNext⟩
  | .error cause => .error ⟨cause, p⟩

/-- Gives the token at hand if it is of an expected kind, of which the end is not one. -/
def expect (expected : Expected) (accepts : TokenKind → Bool) (h : accepts .endOfText = false)
    (p : Parser) : Except Stop (Step Token p) :=
  if hKind : accepts p.current.kind = true then
    p.advance fun hEnd => Bool.false_ne_true (h.symm.trans (hEnd ▸ hKind))
  else .error ⟨.unexpectedToken expected p.current, p⟩

/-- Reads a condition, which counts as soon as it is looked for. -/
def condition (p : Parser) : Except Stop (Step Tree p) := do
  if p.options.maxConditions ≤ p.conditionCount then
    throw ⟨.tooManyConditions p.options.maxConditions p.current.position, p⟩
  let counted : Parser := { p with conditionCount := p.conditionCount + 1 }
  let name ← counted.expect (.token .name) (· == .name) rfl
  let op ← name.parser.expect .operator TokenKind.isOperator rfl
  let literal ← op.parser.expect .literal TokenKind.isLiteral rfl
  match conditionOf p.options.now name.value op.value literal.value with
  | .ok tree =>
    return ⟨tree, literal.parser, by
      have := name.nearer; have := op.nearer; have := literal.nearer
      have : counted.room = p.room := rfl
      omega⟩
  | .error cause => throw ⟨cause, literal.parser⟩

theorem ne_endOfText_of_join {kind : TokenKind} {op : Join} (h : Join.ofToken? kind = some op) :
    kind ≠ .endOfText := by
  rintro rfl
  cases h

/-- Joins a tree to what is to stand in front of it, the nearest first. -/
def joinAll (pending : List (Tree × Join)) (last : Tree) : Tree :=
  pending.foldl (fun right (left, op) => .join op left right) last

mutual

/-- Reads a condition or a group, `depth` groups being open. -/
def operand (depth : Nat) (p : Parser) : Except Stop (Step Tree p) :=
  if p.current.kind = .openParen then
    if p.options.maxDepth ≤ depth then
      .error ⟨.nestingTooDeep p.options.maxDepth p.current.position, p⟩
    else do
      let opened ← p.expect (.token .openParen) (· == .openParen) rfl
      let inner ← opened.parser.chain (depth + 1)
      let closed ← inner.parser.expect (.token .closeParen) (· == .closeParen) rfl
      return ⟨inner.value, closed.parser.countNodes 1, by
        have := opened.nearer; have := inner.nearer; have := closed.nearer
        have : (closed.parser.countNodes 1).room = closed.parser.room := rfl
        omega⟩
  else do
    let read ← p.condition
    return ⟨read.value, read.parser.countNodes 1, read.nearer⟩
termination_by (p.room, 0)
decreasing_by exact Prod.Lex.left _ _ opened.nearer

/-- Reads operands and the joins between them. -/
def chain (depth : Nat) (p : Parser) : Except Stop (Step Tree p) := do
  let first ← p.operand depth
  let ⟨(tree, last), h⟩ ← first.parser.others depth [] first.value
  return ⟨tree, last, Nat.lt_of_le_of_lt h first.nearer⟩
termination_by (p.room, 2)
decreasing_by
  · exact Prod.Lex.right _ (by omega)
  · exact Prod.Lex.left _ _ first.nearer

/-- Reads the joins and operands behind an operand, with those in front of it `pending`, the nearest
first. All are joined when no join follows, and only then. -/
def others (depth : Nat) (pending : List (Tree × Join)) (operand : Tree) (p : Parser) :
    Except Stop { r : Tree × Parser // r.2.room ≤ p.room } :=
  match h : Join.ofToken? p.current.kind with
  | none => .ok ⟨(joinAll pending operand, p.countNodes pending.length), Nat.le_refl _⟩
  | some op => do
    let join ← p.advance (ne_endOfText_of_join h)
    let next ← join.parser.operand depth
    let ⟨r, h⟩ ← next.parser.others depth ((operand, op) :: pending) next.value
    return ⟨r, by have := join.nearer; have := next.nearer; omega⟩
termination_by (p.room, 1)
decreasing_by
  · exact Prod.Lex.left _ _ join.nearer
  · exact Prod.Lex.left _ _ (Nat.lt_trans next.nearer join.nearer)

end

/-- Reads the whole text as a rule, wherever the parser stands in it, and leaves the parser where
the reading ended. The parentheses are checked before the parser is touched. -/
def parse (p : Parser) : Except RuleError Rule × Parser :=
  match checkParens p.cursor.text with
  | .error cause => (.error cause, p)
  | .ok () =>
    let ready : Parser := { p with cursor := p.cursor.reset, nodeCount := 0, conditionCount := 0 }
    match ready.cursor.next with
    | .error cause => (.error cause, ready)
    | .ok (token, cursor) =>
      match chain 0 { ready with cursor, current := token } with
      | .error stop => (.error stop.cause, stop.parser)
      | .ok root =>
        if root.parser.current.kind = .endOfText then
          (.ok ⟨root.value, root.parser.nodeCount, p.cursor.text⟩, root.parser)
        else (.error (.unexpectedToken .endOfRule root.parser.current), root.parser)

end Parser

end PostSieve.Rule
