import PostSieve.Text.Blank

/-! The words of a rule: their kinds, and for each kind the texts that belong to it. -/

namespace PostSieve.Rule

/-- The kinds of token, with `endOfText` standing for the place after the last one. -/
inductive TokenKind
  | name | number | string | age | date
  | openParen | closeParen
  | or | and
  | gt | ge | lt | le | eq | ne | finds | lacks
  | endOfText
deriving DecidableEq, Repr, Inhabited

namespace TokenKind

/-- How messages and dumps write a kind: a fixed symbol stands for itself. -/
def text : TokenKind → String
  | name => "identifier"
  | number => "number"
  | string => "string"
  | age => "age"
  | date => "date"
  | openParen => "("
  | closeParen => ")"
  | or => "||"
  | and => "&&"
  | gt => ">"
  | ge => ">="
  | lt => "<"
  | le => "<="
  | eq => "=="
  | ne => "!="
  | finds => "~"
  | lacks => "!~"
  | endOfText => "EOF"

/-- The kinds that compare a field with a literal. -/
def isOperator : TokenKind → Bool
  | gt | ge | lt | le | eq | ne | finds | lacks => true
  | _ => false

/-- The kinds that may stand on the right of an operator. -/
def isLiteral : TokenKind → Bool
  | number | string | age | date => true
  | _ => false

/-- The kinds that join two conditions. -/
def isLogical : TokenKind → Bool
  | and | or => true
  | _ => false

/-- The kinds that a text is searched for, in the order that decides between equal lengths. -/
def scanned : List TokenKind :=
  [date, age, number, name, string, openParen, closeParen, or, and, ge, gt, le, lt, eq, ne,
    lacks, finds]

end TokenKind

/-- The letters and the underscore, of which names are made. -/
def isNameChar (c : Char) : Bool := c.isAlpha || c == '_'

/-- Whether the text starts with one character of each class in turn. -/
def startsWith : List (Char → Bool) → List Char → Bool
  | [], _ => true
  | _ :: _, [] => false
  | p :: classes, c :: text => p c && startsWith classes text

/-- The length of `classes` when the text starts with one character of each in turn, else zero. -/
def measureClasses (classes : List (Char → Bool)) (text : List Char) : Nat :=
  if startsWith classes text then classes.length else 0

/-- The length of `symbol` when the text starts with it, else zero. -/
def measureSymbol (symbol : String) (text : List Char) : Nat :=
  measureClasses (symbol.toList.map (· == ·)) text

/-- The length of the digits at the start of the text and the unit letter after them, zero when
either is missing. -/
def measureUnit (unit : Char) (text : List Char) : Nat :=
  let digits := (text.takeWhile Char.isDigit).length
  if digits ≠ 0 ∧ (text.drop digits).head? = some unit then digits + 1 else 0

/-- The length of an age at the start of the text: years, months and days, each at most once and in
this order. -/
def measureAge (text : List Char) : Nat :=
  let years := measureUnit 'y' text
  let months := measureUnit 'm' (text.drop years)
  years + months + measureUnit 'd' (text.drop (years + months))

/-- The length of a quoted string at the start of the text: a quote, no quotes, a quote. -/
def measureString : List Char → Nat
  | '"' :: text =>
    let body := (text.takeWhile (· != '"')).length
    if (text.drop body).head? = some '"' then body + 2 else 0
  | _ => 0

/-- Two digits, three letters and four digits, with hyphens between them. -/
def dateClasses : List (Char → Bool) :=
  [Char.isDigit, Char.isDigit, (· == '-'), Char.isAlpha, Char.isAlpha, Char.isAlpha, (· == '-'),
    Char.isDigit, Char.isDigit, Char.isDigit, Char.isDigit]

/-- The length in characters of the longest token of this kind at the start of the text, zero when
there is none. -/
def TokenKind.measure : TokenKind → List Char → Nat
  | .name => fun text => (text.takeWhile isNameChar).length
  | .number => fun text => (text.takeWhile Char.isDigit).length
  | .string => measureString
  | .age => measureAge
  | .date => measureClasses dateClasses
  | .endOfText => fun _ => 0
  | kind => measureSymbol kind.text

/-- A token: its kind, its text, and where in the encoded rule it starts and how long it is. -/
structure Token where
  kind : TokenKind
  value : String
  position : Nat
  length : Nat
deriving DecidableEq, Repr

namespace Token

/-- The token that stands for the end of a text. -/
def endAt (position : Nat) : Token := ⟨.endOfText, "", position, 0⟩

/-- The offset of the byte after the token. -/
def stop (t : Token) : Nat := t.position + t.length

end Token

/-- The kind whose token at the start of the text is longest, with that length; of two equally long
ones the first in `kinds` is taken. -/
def longest (kinds : List TokenKind) (text : List Char) : Option (TokenKind × Nat) :=
  kinds.foldl (fun best kind =>
    let n := kind.measure text
    match best with
    | some (_, m) => if m < n then some (kind, n) else best
    | none => if 0 < n then some (kind, n) else none) none

end PostSieve.Rule
