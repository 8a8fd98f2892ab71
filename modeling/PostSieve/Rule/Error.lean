import PostSieve.Calendar.Age
import PostSieve.Rule.Field

/-! The errors of reading a rule: their causes, their places and their wording. -/

namespace PostSieve.Rule

open Calendar (AgeError)

/-- What the grammar calls for at a place. -/
inductive Expected
  | token (kind : TokenKind)
  | operator
  | literal
  | endOfRule
deriving DecidableEq, Repr

def Expected.text : Expected → String
  | token kind => kind.text
  | operator => "comparison operator"
  | literal => "literal"
  | endOfRule => "end of input"

/-- Why a condition that the grammar admits means nothing. -/
inductive Fault
  | unknownName
  | operatorNotOf (field : Field)
  | literalNotOf (field : Field)
  | badAge (error : AgeError)
  | badDate (error : AgeError)
  /-- The literal is no pattern. The reason is left open: the message ends where a colon and the
  diagnostic of a pattern engine would follow. -/
  | badPattern
  | numberTooLarge (field : Field)
deriving DecidableEq, Repr

def Fault.message : Fault → String
  | unknownName => "Invalid identifier"
  | operatorNotOf field => s!"Invalid operator for \"{field.name}\""
  | literalNotOf field => s!"Invalid literal for \"{field.name}\""
  | badAge error => s!"Invalid format for \"age\": {error.message}"
  | badDate error => s!"Invalid format for \"created\": {error.message}"
  | badPattern => "Invalid pattern for \"text\""
  | numberTooLarge field => s!"Invalid number for \"{field.name}\""

/-- Why a text is no rule. -/
inductive RuleError
  | unrecognizedToken (position : Nat)
  | unbalancedParen (paren : Char) (position : Nat)
  | unexpectedToken (expected : Expected) (found : Token)
  | invalidCondition (fault : Fault) (token : Token)
  | nestingTooDeep (maxDepth position : Nat)
  | tooManyConditions (maxConditions position : Nat)
deriving DecidableEq, Repr

namespace RuleError

/-- The byte offset in the rule that the error is about. -/
def position : RuleError → Nat
  | unrecognizedToken position => position
  | unbalancedParen _ position => position
  | unexpectedToken _ found => found.position
  | invalidCondition _ token => token.position
  | nestingTooDeep _ position => position
  | tooManyConditions _ position => position

def message : RuleError → String
  | unrecognizedToken position => s!"No token matches the input at position {position}"
  | unbalancedParen paren position => s!"Unbalanced '{paren}' at position {position}"
  | unexpectedToken expected found =>
    s!"Unexpected token: expected {expected.text}, got {found.kind.text} '{found.value}' " ++
      s!"(col {found.position})"
  | invalidCondition fault token =>
    s!"{fault.message}: '{token.value}' ({token.kind.text}, col {token.position})"
  | nestingTooDeep maxDepth position =>
    s!"Parentheses nested deeper than {maxDepth} levels (col {position})"
  | tooManyConditions maxConditions position =>
    s!"Rule has more than {maxConditions} conditions (col {position})"

end RuleError

end PostSieve.Rule
