import PostSieve.Json.Number
import PostSieve.Text.Blank

/-! Reading JSON from front to back. A decoder reads a value of one shape and stops at the first
thing wrong with the text or with the shape; what it leaves unread is shorter than the text. -/

namespace PostSieve.Json

/-- A value read from the start of `text`, and the rest. -/
structure Read (α : Type) (text : List Char) where
  value : α
  rest : List Char
  shorter : rest.length < text.length

/-- A decoder of values. -/
abbrev Decoder (α : Type) := (text : List Char) → Except Error (Read α text)

def Read.map {α β : Type} {text : List Char} (f : α → β) (r : Read α text) : Read β text :=
  ⟨f r.value, r.rest, r.shorter⟩

/-- The characters that may stand between the parts of a value. -/
def isSpace (c : Char) : Bool := c == ' ' || c == '\n' || c == '\t' || c == '\r'

def skipSpace (text : List Char) : List Char := text.dropWhile isSpace

theorem length_skipSpace_le (text : List Char) : (skipSpace text).length ≤ text.length :=
  (List.dropWhile_suffix _).length_le

def skipWord : List Char → List Char → Except Error (List Char)
  | [], text => .ok text
  | _ :: _, [] => .error .truncated
  | w :: word, c :: text => if c = w then skipWord word text else .error .malformed

theorem length_of_skipWord : ∀ {word text rest : List Char}, skipWord word text = .ok rest →
    rest.length ≤ text.length
  | [], text, rest, h => by cases h; exact Nat.le_refl _
  | _ :: _, [], rest, h => by cases h
  | w :: word, c :: text, rest, h => by
    unfold skipWord at h
    split at h
    · exact Nat.le_succ_of_le (length_of_skipWord h)
    · cases h

/-- The number that four hexadecimal digits write. A text that ends within four bytes is cut
short. -/
def readUnit (text : List Char) : Except Error (Read Nat text) :=
  match text with
  | a :: b :: c :: d :: rest =>
    match Unicode.hexValue? a, Unicode.hexValue? b, Unicode.hexValue? c, Unicode.hexValue? d with
    | some a, some b, some c, some d =>
      .ok ⟨((a * 16 + b) * 16 + c) * 16 + d, rest, by simp; omega⟩
    | _, _, _, _ => .error .malformed
  | _ => .error (if byteLength text < 4 then .truncated else .malformed)

/-- The character of two halves of a surrogate pair. -/
def pairChar (high low : Nat) : Char :=
  Char.ofNat (0x10000 + (high - 0xD800) * 0x400 + (low - 0xDC00))

/-- Reads an escaped character after `\u`. Where `strict`, halves of surrogate pairs must come in
pairs; else each stands for itself, and its value means nothing. -/
def readCode (strict : Bool) (text : List Char) : Except Error (Read Char text) := do
  let high ← readUnit text
  if !strict ∨ high.value < 0xD800 ∨ 0xDFFF < high.value then
    return high.map Char.ofNat
  else if 0xDC00 ≤ high.value then throw .malformed
  else
    match h : high.rest with
    | [] => throw .truncated
    | '\\' :: [] => throw .truncated
    | '\\' :: 'u' :: rest =>
      let low ← readUnit rest
      if low.value < 0xDC00 ∨ 0xDFFF < low.value then throw .malformed
      return ⟨pairChar high.value low.value, low.rest, by
        have h₁ := high.shorter
        have h₂ := low.shorter
        rw [h] at h₁
        simp only [List.length_cons] at h₁
        omega⟩
    | _ => throw .malformed

/-- Reads an escaped character after its backslash. -/
def readEscape (strict : Bool) (text : List Char) : Except Error (Read Char text) :=
  match text with
  | [] => .error .truncated
  | c :: rest =>
    match c with
    | '"' => .ok ⟨'"', rest, by simp⟩
    | '\\' => .ok ⟨'\\', rest, by simp⟩
    | '/' => .ok ⟨'/', rest, by simp⟩
    | 'b' => .ok ⟨'\x08', rest, by simp⟩
    | 'f' => .ok ⟨'\x0C', rest, by simp⟩
    | 'n' => .ok ⟨'\n', rest, by simp⟩
    | 'r' => .ok ⟨'\r', rest, by simp⟩
    | 't' => .ok ⟨'\t', rest, by simp⟩
    | 'u' => do
      let code ← readCode strict rest
      return ⟨code.value, code.rest, Nat.lt_succ_of_lt code.shorter⟩
    | _ => .error .malformed

/-- Reads a string after its opening quote. -/
def readChars (strict : Bool) (text : List Char) : Except Error (Read (List Char) text) :=
  match text with
  | [] => .error .truncated
  | c :: rest =>
    if c = '"' then .ok ⟨[], rest, by simp⟩
    else if c = '\\' then do
      let escape ← readEscape strict rest
      let chars ← readChars strict escape.rest
      return ⟨escape.value :: chars.value, chars.rest, by
        have := escape.shorter; have := chars.shorter; simp; omega⟩
    else if c.toNat < 0x20 then .error .malformed
    else do
      let chars ← readChars strict rest
      return ⟨c :: chars.value, chars.rest, by have := chars.shorter; simp; omega⟩
termination_by text.length
decreasing_by
  · have := escape.shorter; simp; omega
  · simp

/-- Reads a string after its opening quote. -/
def readString (text : List Char) : Except Error (Read String text) := do
  return (← readChars true text).map String.ofList

end PostSieve.Json
