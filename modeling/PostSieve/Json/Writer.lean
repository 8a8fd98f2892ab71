import PostSieve.Text.Decimal

/-! Writing JSON: strings with their escapes, and objects on one line or on a line for each part. -/

namespace PostSieve.Json

/-- The digit of a number below sixteen. -/
def hexDigit (n : Nat) : Char := Nat.digitChar n

/-- How a character stands in a string: quotes, backslashes and control characters are escaped. -/
def escaped (c : Char) : List Char :=
  if c = '"' then ['\\', '"']
  else if c = '\\' then ['\\', '\\']
  else if c = '\x08' then ['\\', 'b']
  else if c = '\x0C' then ['\\', 'f']
  else if c = '\n' then ['\\', 'n']
  else if c = '\r' then ['\\', 'r']
  else if c = '\t' then ['\\', 't']
  else if c.toNat < 0x20 then
    ['\\', 'u', '0', '0', hexDigit (c.toNat / 16), hexDigit (c.toNat % 16)]
  else [c]

def writeString (text : String) : String :=
  String.ofList ('"' :: text.toList.flatMap escaped ++ ['"'])

def writeBool (b : Bool) : String := if b then "true" else "false"

/-- A natural number below 2^64. -/
def writeWord (n : UInt64) : String := toString n.toNat

/-- An object on one line, of names and written values. -/
def writeObject (members : List (String × String)) : String :=
  "\x7b" ++ ",".intercalate (members.map fun (name, value) => writeString name ++ ":" ++ value) ++
    "\x7d"

/-- A line for each part between brackets that are indented by `indent` blanks; the brackets alone
where there are no parts. -/
def block (opening closing : String) (indent : Nat) (parts : List String) : String :=
  if parts.isEmpty then opening ++ closing
  else
    let margin (width : Nat) := String.ofList (List.replicate width ' ')
    opening ++ "\n" ++ ",\n".intercalate (parts.map (margin (indent + 2) ++ ·)) ++ "\n" ++
      margin indent ++ closing

/-- A list with a line for each of its written elements. -/
def listBlock (indent : Nat) (elements : List String) : String := block "[" "]" indent elements

/-- An object with a line for each member, of names and written values. -/
def objectBlock (indent : Nat) (members : List (String × String)) : String :=
  block "\x7b" "\x7d" indent
    (members.map fun (name, value) => writeString name ++ ": " ++ value)

end PostSieve.Json
