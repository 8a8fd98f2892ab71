import PostSieve.Calendar.Layout
import PostSieve.Rule.Error
import PostSieve.Rule.Tree

/-! The meaning of a condition: from a name, an operator and a literal to the tests of a post. -/

namespace PostSieve.Rule

open Calendar (Instant Age readDate)

/-- The text between the quotes of a string token. -/
def unquoted (value : String) : String := String.ofList (value.toList.drop 1).dropLast

/-- The criteria of a condition on a field, whose operator and kind of literal suit it. Ages count
back from `now`, so that the older posts are those before an instant. -/
def Field.criteria (now : Instant) (op : TokenKind) (literal : String) :
    Field → Except Fault Criteria
  | age => do
    let instant ← (Age.instantBefore literal now).mapError .badAge
    return if op = .gt ∨ op = .ge then { before := instant } else { after := instant }
  | created => do
    let instant ← (readDate literal).mapError .badDate
    return if op = .lt ∨ op = .le then { before := instant } else { after := instant }
  | text =>
    match Pattern.read? (unquoted literal) with
    | some pattern => .ok { matching := some ⟨pattern, op == .lacks⟩ }
    | none => .error .badPattern
  | likes => do return { likes := some (← countBound .likes) }
  | retweets => do return { retweets := some (← countBound .retweets) }
where
  /-- The bound on a count; the number must fit into 64 bits. -/
  countBound (field : Field) : Except Fault CountBound :=
    match readWord64? literal.toList, Comparator.ofToken? op with
    | none, _ => .error (.numberTooLarge field)
    | some _, none => .error (.operatorNotOf field)
    | some threshold, some comparator => .ok ⟨comparator, threshold⟩

/-- The condition that three tokens mean. The name is looked at first, then the operator, then the
kind of the literal, and last its value. -/
def conditionOf (now : Instant) (name op literal : Token) : Except RuleError Tree :=
  match Field.ofName? name.value with
  | none => .error (.invalidCondition .unknownName name)
  | some field =>
    if op.kind ∉ field.operators then .error (.invalidCondition (.operatorNotOf field) op)
    else if literal.kind ≠ field.literal then
      .error (.invalidCondition (.literalNotOf field) literal)
    else
      match field.criteria now op.kind literal.value with
      | .ok criteria => .ok (.condition field op.kind criteria)
      | .error fault => .error (.invalidCondition fault literal)

end PostSieve.Rule
