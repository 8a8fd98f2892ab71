import PostSieve.Rule.Error

/-! The balance of the parentheses that stand outside quotes. -/

namespace PostSieve.Rule

/-- Looks for an unbalanced parenthesis in `text`, which lies at byte `position`: `opened` are the
places of the parentheses still open, the innermost first, and `quoted` tells whether a quote is. -/
def findUnbalanced (opened : List Nat) (quoted : Bool) (position : Nat) :
    List Char → Option RuleError
  | [] => opened.head?.map (.unbalancedParen '(' ·)
  | c :: text =>
    let next := position + c.utf8Size
    if c = '"' then findUnbalanced opened (!quoted) next text
    else if c = '(' ∧ !quoted then findUnbalanced (position :: opened) quoted next text
    else if c = ')' ∧ !quoted then
      match opened with
      | [] => some (.unbalancedParen ')' position)
      | _ :: opened => findUnbalanced opened quoted next text
    else findUnbalanced opened quoted next text

/-- Fails at a parenthesis without its partner: at the first that closes nothing, else at the last
that nothing closes. -/
def checkParens (text : String) : Except RuleError Unit :=
  match findUnbalanced [] false 0 text.toList with
  | some error => .error error
  | none => .ok ()

end PostSieve.Rule
