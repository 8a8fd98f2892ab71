import PostSieve.Json.Reader
import Mathlib.Data.List.Perm.Basic

/-! The grammar of JSON texts: which texts are well-formed values, and which of them write a given
string, list or record. Strings may be escaped in any way, and spaces may stand between any two
parts. -/

namespace PostSieve.Json

/-! ### Spaces and commas -/

/-- Whether a text may stand between the parts of a value. -/
def IsSpaces (text : List Char) : Prop := ∀ c ∈ text, isSpace c = true

/-- Items that follow another one, each behind a comma, up to a closing bracket. -/
inductive Continued : List (List Char) → List Char → Prop
  | done {spaces : List Char} : IsSpaces spaces → Continued [] spaces
  | next {before after item text : List Char} {items : List (List Char)} :
      IsSpaces before → IsSpaces after → Continued items text →
        Continued (item :: items) (before ++ ',' :: (after ++ (item ++ text)))

/-- What stands between brackets around some items. -/
inductive Separated : List (List Char) → List Char → Prop
  | none {spaces : List Char} : IsSpaces spaces → Separated [] spaces
  | some {before item text : List Char} {items : List (List Char)} :
      IsSpaces before → Continued items text → Separated (item :: items) (before ++ (item ++ text))

/-- A member of an object: its name and its value, as they are written. -/
structure Member where
  key : List Char
  value : List Char

/-- Whether a text is a member, with its colon. -/
def Member.Writes (m : Member) (text : List Char) : Prop :=
  ∃ before after, IsSpaces before ∧ IsSpaces after ∧
    text = m.key ++ (before ++ ':' :: (after ++ m.value))

/-- Whether a text is an object with certain members. -/
def WritesObject (members : List Member) (text : List Char) : Prop :=
  ∃ items inner, List.Forall₂ Member.Writes members items ∧ Separated items inner ∧
    text = '\x7b' :: (inner ++ ['\x7d'])

/-- Whether a text is an array of certain elements. -/
def WritesArray (items : List (List Char)) (text : List Char) : Prop :=
  ∃ inner, Separated items inner ∧ text = '[' :: (inner ++ [']'])

/-! ### Strings -/

/-- A hexadecimal digit of either letter case. -/
def IsHexDigit (c : Char) (n : Nat) : Prop :=
  n < 16 ∧ (c = Nat.digitChar n ∨ c = (Nat.digitChar n).toUpper)

/-- The four hexadecimal digits of a number. -/
def WritesUnit (unit : Nat) (digits : List Char) : Prop :=
  ∃ a b c d i j k l, digits = [a, b, c, d] ∧
    IsHexDigit a i ∧ IsHexDigit b j ∧ IsHexDigit c k ∧ IsHexDigit d l ∧
    unit = ((i * 16 + j) * 16 + k) * 16 + l

/-- The letters that escape a character, with the character. -/
def shortEscapes : List (Char × Char) :=
  [('"', '"'), ('\\', '\\'), ('/', '/'), ('b', '\x08'), ('f', '\x0C'), ('n', '\n'), ('r', '\r'),
    ('t', '\t')]

/-- The ways to write a character in a string: by itself, by a letter, by its code, or by the two
halves of a surrogate pair. -/
inductive WritesChar : Char → List Char → Prop
  | plain {c : Char} : 0x20 ≤ c.toNat → c ≠ '"' → c ≠ '\\' → WritesChar c [c]
  | short {c letter : Char} : (letter, c) ∈ shortEscapes → WritesChar c ['\\', letter]
  | code {c : Char} {digits : List Char} :
      WritesUnit c.toNat digits → WritesChar c ('\\' :: 'u' :: digits)
  | pair {c : Char} {high low : Nat} {digits digits' : List Char} :
      0xD800 ≤ high → high < 0xDC00 → 0xDC00 ≤ low → low < 0xE000 →
        c.toNat = 0x10000 + (high - 0xD800) * 0x400 + (low - 0xDC00) →
        WritesUnit high digits → WritesUnit low digits' →
        WritesChar c ('\\' :: 'u' :: (digits ++ '\\' :: 'u' :: digits'))

/-- Whether a text is a string in quotes. -/
def WritesString (s : String) (text : List Char) : Prop :=
  ∃ parts, List.Forall₂ WritesChar s.toList parts ∧ text = '"' :: (parts.flatten ++ ['"'])

/-- A character of a string, or an escape. The code of an escape need not be that of a character. -/
inductive IsStringPart : List Char → Prop
  | plain {c : Char} : 0x20 ≤ c.toNat → c ≠ '"' → c ≠ '\\' → IsStringPart [c]
  | short {c letter : Char} : (letter, c) ∈ shortEscapes → IsStringPart ['\\', letter]
  | code {unit : Nat} {digits : List Char} :
      WritesUnit unit digits → IsStringPart ('\\' :: 'u' :: digits)

/-- Whether a text is a well-formed string in quotes. -/
def IsString (text : List Char) : Prop :=
  ∃ parts : List (List Char), (∀ part ∈ parts, IsStringPart part) ∧
    text = '"' :: (parts.flatten ++ ['"'])

/-! ### Numbers -/

/-- One digit or more. -/
def IsDigits (text : List Char) : Prop := text ≠ [] ∧ ∀ c ∈ text, c.isDigit = true

/-- A whole number: no zero stands in front of other digits. -/
def IsWhole (text : List Char) : Prop :=
  IsDigits text ∧ ∀ rest, text = '0' :: rest → rest = []

/-- A point and digits, or nothing. -/
def IsFraction (text : List Char) : Prop :=
  text = [] ∨ ∃ digits, IsDigits digits ∧ text = '.' :: digits

/-- An exponent, or nothing. -/
def IsExponent (text : List Char) : Prop :=
  text = [] ∨ ∃ letter sign digits, (letter = 'e' ∨ letter = 'E') ∧
    (sign = [] ∨ sign = ['+'] ∨ sign = ['-']) ∧ IsDigits digits ∧ text = letter :: (sign ++ digits)

/-- Whether a text is a well-formed number. -/
def IsNumber (text : List Char) : Prop :=
  ∃ sign whole fraction exponent, (sign = [] ∨ sign = ['-']) ∧ IsWhole whole ∧
    IsFraction fraction ∧ IsExponent exponent ∧ text = sign ++ (whole ++ (fraction ++ exponent))

/-! ### Values -/

/-- Whether a text is a well-formed value. -/
inductive IsJson : List Char → Prop
  | word {word : String} : word ∈ ["null", "true", "false"] → IsJson word.toList
  | number {text : List Char} : IsNumber text → IsJson text
  | string {text : List Char} : IsString text → IsJson text
  | array {items : List (List Char)} {text : List Char} : WritesArray items text →
      (∀ item ∈ items, IsJson item) → IsJson text
  | object {members : List Member} {text : List Char} : WritesObject members text →
      (∀ m ∈ members, IsString m.key) → (∀ m ∈ members, IsJson m.value) → IsJson text

/-- A member of a record: its name, and which texts are its value. -/
structure RecordPart where
  name : String
  Writes : List Char → Prop

/-- Whether a member is a part of a record. -/
def RecordPart.Is (part : RecordPart) (m : Member) : Prop :=
  WritesString part.name m.key ∧ part.Writes m.value

/-- Whether a text is an object of the parts of a record, in any order, with further members of
other names among them. -/
def WritesRecord (parts : List RecordPart) (text : List Char) : Prop :=
  ∃ members own others, WritesObject members text ∧ members.Perm (own ++ others) ∧
    List.Forall₂ RecordPart.Is parts own ∧
    ∀ m ∈ others, IsJson m.value ∧
      ∃ name, WritesString name m.key ∧ ∀ part ∈ parts, part.name ≠ name

/-- Whether a text is a truth value. -/
def WritesFlag (b : Bool) (text : List Char) : Prop :=
  text = (if b then "true" else "false").toList

/-- Whether a text is a natural number in base ten. -/
def WritesNatural (n : Nat) (text : List Char) : Prop := text = (toString n).toList

/-- Whether a text is an array of texts for the values of a list. -/
def WritesList {α : Type} (Writes : α → List Char → Prop) (values : List α) (text : List Char) :
    Prop :=
  ∃ items, List.Forall₂ Writes values items ∧ WritesArray items text

/-! ### Where values begin and end -/

/-- What the text behind a value begins with: a space, a comma or a closing bracket. -/
def EndsValue (rest : List Char) : Prop :=
  ∀ c ∈ rest.head?, isSpace c = true ∨ c = ',' ∨ c = ']' ∨ c = '\x7d'

/-- What a value does not begin with. -/
def StartsValue (text : List Char) : Prop :=
  ∃ c rest, text = c :: rest ∧ isSpace c = false ∧ c ≠ ',' ∧ c ≠ ']' ∧ c ≠ '\x7d'

theorem skipSpace_append {spaces rest : List Char} (h : IsSpaces spaces) :
    skipSpace (spaces ++ rest) = skipSpace rest := by
  rw [skipSpace, List.dropWhile_append_of_pos h, skipSpace]

theorem skipSpace_cons {c : Char} {rest : List Char} (h : isSpace c = false) :
    skipSpace (c :: rest) = c :: rest := by
  rw [skipSpace, List.dropWhile_cons_of_neg (by simp [h])]

theorem skipSpace_append_cons {spaces rest : List Char} {c : Char} (h : IsSpaces spaces)
    (hc : isSpace c = false) : skipSpace (spaces ++ c :: rest) = c :: rest := by
  rw [skipSpace_append h, skipSpace_cons hc]

theorem skipSpace_eq_nil {spaces : List Char} (h : IsSpaces spaces) : skipSpace spaces = [] := by
  rw [← List.append_nil spaces, skipSpace_append h]
  rfl

theorem isSpaces_nil : IsSpaces [] := nofun

theorem IsSpaces.endsValue {spaces rest : List Char} (h : IsSpaces spaces)
    (hRest : EndsValue rest) : EndsValue (spaces ++ rest) := by
  cases spaces with
  | nil => exact hRest
  | cons c spaces =>
    intro a ha
    cases ha
    exact Or.inl (h c List.mem_cons_self)

theorem endsValue_cons {c : Char} {rest : List Char} (h : c = ',' ∨ c = ']' ∨ c = '\x7d') :
    EndsValue (c :: rest) := by
  intro a ha
  cases ha
  exact Or.inr h

theorem endsValue_nil : EndsValue [] := nofun

/-- Behind an item there is a comma or the closing bracket. -/
theorem Continued.endsValue {items : List (List Char)} {text rest : List Char} {closing : Char}
    (h : Continued items text) (hClosing : closing = ']' ∨ closing = '\x7d') :
    EndsValue (text ++ closing :: rest) := by
  cases h with
  | done hSpaces => exact hSpaces.endsValue (endsValue_cons (Or.inr hClosing))
  | next hBefore _ _ =>
    rw [List.append_assoc]
    exact hBefore.endsValue (endsValue_cons (Or.inl rfl))

theorem StartsValue.append {text : List Char} (h : StartsValue text) (rest : List Char) :
    StartsValue (text ++ rest) := by
  obtain ⟨c, tail, rfl, hc⟩ := h
  exact ⟨c, tail ++ rest, rfl, hc⟩

theorem isSpace_of_isDigit {c : Char} (h : c.isDigit = true) : isSpace c = false := by
  by_contra hSpace
  simp only [isSpace, Bool.not_eq_false, Bool.or_eq_true, beq_iff_eq] at hSpace
  rcases hSpace with ((rfl | rfl) | rfl) | rfl <;> exact absurd h (by decide)

theorem startsValue_of_isDigit {c : Char} {rest : List Char} (h : c.isDigit = true) :
    StartsValue (c :: rest) := by
  refine ⟨c, rest, rfl, isSpace_of_isDigit h, ?_, ?_, ?_⟩ <;> rintro rfl <;>
    exact absurd h (by decide)

theorem WritesString.startsValue {s : String} {text : List Char} (h : WritesString s text) :
    StartsValue text := by
  obtain ⟨parts, -, rfl⟩ := h
  exact ⟨_, _, rfl, by decide⟩

theorem IsString.startsValue {text : List Char} (h : IsString text) : StartsValue text := by
  obtain ⟨parts, -, rfl⟩ := h
  exact ⟨_, _, rfl, by decide⟩

theorem WritesObject.startsValue {members : List Member} {text : List Char}
    (h : WritesObject members text) : StartsValue text := by
  obtain ⟨items, inner, -, -, rfl⟩ := h
  exact ⟨_, _, rfl, by decide⟩

theorem WritesRecord.startsValue {parts : List RecordPart} {text : List Char}
    (h : WritesRecord parts text) : StartsValue text := by
  obtain ⟨members, own, others, hObject, -⟩ := h
  exact hObject.startsValue

theorem WritesArray.startsValue {items : List (List Char)} {text : List Char}
    (h : WritesArray items text) : StartsValue text := by
  obtain ⟨inner, -, rfl⟩ := h
  exact ⟨_, _, rfl, by decide⟩

theorem IsNumber.startsValue {text : List Char} (h : IsNumber text) : StartsValue text := by
  obtain ⟨sign, whole, fraction, exponent, hSign, ⟨⟨hNe, hDigits⟩, -⟩, -, -, rfl⟩ := h
  rcases hSign with rfl | rfl
  · obtain ⟨c, tail, rfl⟩ := List.exists_cons_of_ne_nil hNe
    exact startsValue_of_isDigit (hDigits c List.mem_cons_self)
  · exact ⟨_, _, rfl, by decide⟩

theorem IsJson.startsValue {text : List Char} (h : IsJson text) : StartsValue text := by
  cases h with
  | word h =>
    simp only [List.mem_cons, List.not_mem_nil, or_false] at h
    rcases h with rfl | rfl | rfl <;> exact ⟨_, _, rfl, by decide⟩
  | number h => exact h.startsValue
  | string h => exact h.startsValue
  | array h => exact h.startsValue
  | object h => exact h.startsValue

end PostSieve.Json
