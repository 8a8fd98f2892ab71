import PostSieve.Rule.Cursor
import PostSieve.Rule.Meaning
import PostSieve.Rule.Parens

/-! Reading a rule: conditions in parentheses and joins of one precedence, grouped to the right.

```text
Rule      := Chain
Chain     := Operand | Operand Join Chain
Operand   := "(" Chain ")" | Condition
Condition := name operator literal
```

A token is taken only after the one behind it has been found, so text that is no token is reported
before a fault in the tokens in front of it would be. -/

namespace PostSieve.Rule

open Calendar (Instant)

/-- What reading a rule depends on: the instant that ages count back from, and two limits. -/
structure Options where
  now : Instant
  /-- How many parentheses may be open at once. -/
  maxDepth : Nat := 64
  /-- How many conditions a rule may have. -/
  maxConditions : Nat := 1024

/-- A part of a rule that has been read from `stream`: its tree, the number of its conditions, joins
and groups, the number of conditions read so far, and the tokens after it, which are fewer. -/
structure Reading (stream : TokenStream) where
  tree : Tree
  nodeCount : Nat
  conditions : Nat
  rest : TokenStream
  shorter : rest.size < stream.size

/-- A stream after its first token, with that token. -/
structure Taken (stream : TokenStream) where
  token : Token
  rest : TokenStream
  shorter : rest.size < stream.size

/-- Takes a token of an expected kind. -/
def take (expected : Expected) (accepts : TokenKind → Bool) (stream : TokenStream) :
    Except RuleError (Taken stream) :=
  match h : stream.tokens with
  | [] => .error (.unexpectedToken expected stream.current)
  | token :: tokens =>
    if accepts token.kind then do
      let rest : TokenStream := { stream with tokens }
      rest.check
      return ⟨token, rest, by simp [TokenStream.size, h, rest]⟩
    else .error (.unexpectedToken expected token)

def takeKind (kind : TokenKind) (stream : TokenStream) : Except RuleError (Taken stream) :=
  take (.token kind) (· == kind) stream

/-- Reads a condition, `conditions` having been read before. -/
def readCondition (options : Options) (conditions : Nat) (stream : TokenStream) :
    Except RuleError (Reading stream) := do
  if options.maxConditions ≤ conditions then
    throw (.tooManyConditions options.maxConditions stream.current.position)
  let name ← takeKind .name stream
  let op ← take .operator TokenKind.isOperator name.rest
  let literal ← take .literal TokenKind.isLiteral op.rest
  let tree ← conditionOf options.now name.token op.token literal.token
  return ⟨tree, 1, conditions + 1, literal.rest, by
    have := name.shorter; have := op.shorter; have := literal.shorter; omega⟩

mutual

/-- Reads a condition or a group, `depth` groups being open. -/
def readOperand (options : Options) (depth conditions : Nat) (stream : TokenStream) :
    Except RuleError (Reading stream) :=
  if stream.current.kind = .openParen then
    if options.maxDepth ≤ depth then
      .error (.nestingTooDeep options.maxDepth stream.current.position)
    else do
      let opened ← takeKind .openParen stream
      let inner ← readChain options (depth + 1) conditions opened.rest
      let closed ← takeKind .closeParen inner.rest
      return ⟨inner.tree, inner.nodeCount + 1, inner.conditions, closed.rest, by
        have := opened.shorter; have := inner.shorter; have := closed.shorter; omega⟩
  else readCondition options conditions stream
termination_by (stream.size, 0)
decreasing_by
  exact Prod.Lex.left _ _ opened.shorter

/-- Reads operands and the joins between them. -/
def readChain (options : Options) (depth conditions : Nat) (stream : TokenStream) :
    Except RuleError (Reading stream) := do
  let first ← readOperand options depth conditions stream
  match Join.ofToken? first.rest.current.kind with
  | none => return first
  | some op =>
    let join ← takeKind first.rest.current.kind first.rest
    let others ← readChain options depth first.conditions join.rest
    return ⟨.join op first.tree others.tree, first.nodeCount + others.nodeCount + 1,
      others.conditions, others.rest, by
        have := first.shorter; have := join.shorter; have := others.shorter; omega⟩
termination_by (stream.size, 1)
decreasing_by
  · exact Prod.Lex.right _ (by omega)
  · have := first.shorter
    have := join.shorter
    exact Prod.Lex.left _ _ (by omega)

end

end Rule

/-- Reads a rule. Its parentheses are checked before anything else. -/
def Rule.read (options : Rule.Options) (text : String) : Except Rule.RuleError Rule := do
  Rule.checkParens text
  let stream := Rule.TokenStream.ofText text
  stream.check
  let chain ← Rule.readChain options 0 0 stream
  if chain.rest.size = 0 then return ⟨chain.tree, chain.nodeCount, text⟩
  else throw (.unexpectedToken .endOfRule chain.rest.current)

end PostSieve
