import PostSieve.Text.Quoted

/-! Why a JSON text cannot be read as a value of some shape. -/

namespace PostSieve.Json

/-- A value that was found where another kind was wanted. -/
inductive Found
  | null
  | boolean (b : Bool)
  | integer (n : Int)
  /-- A number with a fraction or an exponent, or one too large, as it would be written. -/
  | real (text : String)
  | string (s : String)
  | array
  | object
deriving DecidableEq, Repr

def Found.text : Found → String
  | null => "null"
  | boolean b => s!"boolean `{b}`"
  | integer n => s!"integer `{n}`"
  | real text => s!"floating point `{text}`"
  | string s => "string " ++ quoted s
  | array => "sequence"
  | object => "map"

/-- How a well-formed value differs from the shape that is wanted. -/
inductive Mismatch
  | missingField (name : String)
  | duplicateField (name : String)
  | invalidType (found : Found) (expected : String)
  | invalidValue (found : Found) (expected : String)
  | invalidLength (length : Nat) (expected : String)
  /-- A text that does not mean a value of the type that it stands for. -/
  | unreadableText
deriving DecidableEq, Repr

/-- The wording of a mismatch; that of a text depends on its type, and is left out. -/
def Mismatch.message? : Mismatch → Option String
  | missingField name => some s!"missing field `{name}`"
  | duplicateField name => some s!"duplicate field `{name}`"
  | invalidType found expected => some s!"invalid type: {found.text}, expected {expected}"
  | invalidValue found expected => some s!"invalid value: {found.text}, expected {expected}"
  | invalidLength length expected => some s!"invalid length {length}, expected {expected}"
  | unreadableText => none

/-- The first thing wrong with a text: it is not JSON, it ends within a value, or its value has
another shape. -/
inductive Error
  | malformed
  | truncated
  | mismatch (cause : Mismatch)
deriving DecidableEq, Repr

/-- The wording of an error, if it has one. -/
def Error.message? : Error → Option String
  | mismatch cause => cause.message?
  | _ => none

/-- One line about an error. -/
def Error.summary (e : Error) : String :=
  e.message?.getD <| match e with
    | malformed => "the text is not well-formed"
    | truncated => "the text ends within a value"
    | mismatch _ => "a text does not mean a value of its type"

end PostSieve.Json
