import PostSieve.Rule.TokenStream

/-! A place in a rule from which its tokens are read one by one. -/

namespace PostSieve.Rule

/-- A rule, the part of it that is still to be read with its byte offset, and the number of tokens
read so far. -/
structure Cursor where
  text : String
  rest : List Char
  position : Nat
  count : Nat
deriving DecidableEq, Repr

namespace Cursor

def start (text : String) : Cursor := ⟨text, text.toList, 0, 0⟩

/-- The tokens still to be read. -/
def stream (c : Cursor) : TokenStream := .scanFrom TokenKind.scanned c.position c.rest

/-- The next token and the place after it. The end of the text can be read again and again. -/
def next (c : Cursor) : Except RuleError (Token × Cursor) :=
  match scan TokenKind.scanned c.position c.rest with
  | .stopped (.endOfText position) => .ok (Token.endAt position, c)
  | .stopped (.unrecognized position) => .error (.unrecognizedToken position)
  | .token token rest =>
    .ok (token, { c with rest, position := token.stop, count := c.count + 1 })

def peek (c : Cursor) : Except RuleError Token := c.next.map (·.1)

/-- All tokens to come, and the place after the last of them. -/
def tokens (c : Cursor) : Except RuleError (List Token) × Cursor :=
  match h : scan TokenKind.scanned c.position c.rest with
  | .stopped (.endOfText position) => (.ok [Token.endAt position], c)
  | .stopped (.unrecognized position) => (.error (.unrecognizedToken position), c)
  | .token token rest =>
    have := length_lt_of_scan h
    let (tokens, last) :=
      Cursor.tokens { c with rest, position := token.stop, count := c.count + 1 }
    (tokens.map (token :: ·), last)
termination_by c.rest.length

def reset (c : Cursor) : Cursor := start c.text

end Cursor

end PostSieve.Rule
