import PostSieve.Unicode.Newest

/-! Texts in double quotes, with all that does not print written by escapes. -/

namespace PostSieve

open Unicode

/-- A code in small hexadecimal digits, without leading zeros. -/
def hexText (code : Nat) : String := String.ofList (Nat.toDigits 16 code)

/-- How a character is written within quotes: combining characters and those that leave no trace
are given by their codes. -/
def quotedChar (c : Char) : String :=
  if c = '\x00' then "\\0"
  else if c = '\t' then "\\t"
  else if c = '\r' then "\\r"
  else if c = '\n' then "\\n"
  else if c = '"' ∨ c = '\\' then "\\".push c
  else if 0x20 ≤ c.toNat ∧ c.toNat < 0x7F then String.singleton c
  else if Newest.graphemeExtend.contains c || !Newest.printable.contains c then
    "\\u\x7b" ++ hexText c.toNat ++ "\x7d"
  else String.singleton c

def quoted (text : String) : String :=
  "\"" ++ String.join (text.toList.map quotedChar) ++ "\""

end PostSieve
