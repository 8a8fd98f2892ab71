import PostSieve.Json.Skip

/-! Decoders for values of known shapes: numbers, truth values, texts, lists and records. A record
may be written as an object, with further members that are skipped, or as an array of its fields in
order. -/

namespace PostSieve.Json

/-- The error for a value that is not of the expected kind: the value is read as far as naming it
needs. -/
def unexpected (expected : String) (text : List Char) : Error :=
  let word (word : String) (found : Found) (rest : List Char) :=
    match skipWord word.toList rest with
    | .ok _ => Error.mismatch (.invalidType found expected)
    | .error e => e
  let number (negated : Bool) (rest : List Char) :=
    match readNumber negated rest with
    | .ok (n, _) => Error.mismatch (.invalidType n.found expected)
    | .error e => e
  match skipSpace text with
  | [] => .truncated
  | 'n' :: rest => word "ull" .null rest
  | 't' :: rest => word "rue" (.boolean true) rest
  | 'f' :: rest => word "alse" (.boolean false) rest
  | '-' :: rest => number true rest
  | '"' :: rest =>
    match readString rest with
    | .ok s => .mismatch (.invalidType (.string s.value) expected)
    | .error e => e
  | '[' :: _ => .mismatch (.invalidType .array expected)
  | '\x7b' :: _ => .mismatch (.invalidType .object expected)
  | c :: rest => if c.isDigit then number false (c :: rest) else .malformed

theorem length_lt_of_skipSpace {text rest : List Char} {c : Char}
    (h : skipSpace text = c :: rest) : rest.length < text.length := by
  have := length_skipSpace_le text
  rw [h, List.length_cons] at this
  omega

def string (expected : String) : Decoder String := fun text =>
  match h : skipSpace text with
  | '"' :: rest => do
    let s ← readString rest
    return ⟨s.value, s.rest, Nat.lt_trans s.shorter (length_lt_of_skipSpace h)⟩
  | _ => .error (unexpected expected text)

/-- The word that a number is, if it is one. -/
def Number.word? : Number → Except Error UInt64
  | natural n => .ok n
  | negative n => .error (.mismatch (.invalidValue (.integer (-n)) "u64"))
  | n => .error (.mismatch (.invalidType n.found "u64"))

/-- Decodes a whole number below 2^64. -/
def word : Decoder UInt64 := fun text =>
  match h : skipSpace text with
  | '-' :: rest =>
    match h' : readNumber true rest with
    | .ok (n, rest') => do
      return ⟨← n.word?, rest', Nat.lt_trans (length_of_readNumber h') (length_lt_of_skipSpace h)⟩
    | .error e => .error e
  | c :: rest =>
    if c.isDigit then
      match h' : readNumber false (c :: rest) with
      | .ok (n, rest') => do
        return ⟨← n.word?, rest', by
          have := length_of_readNumber h'
          have := length_skipSpace_le text
          rw [h] at this
          omega⟩
      | .error e => .error e
    else .error (unexpected "u64" text)
  | [] => .error .truncated

def boolean : Decoder Bool := fun text =>
  match h : skipSpace text with
  | 't' :: rest =>
    match h' : skipWord "rue".toList rest with
    | .ok rest' =>
      .ok ⟨true, rest', Nat.lt_of_le_of_lt (length_of_skipWord h') (length_lt_of_skipSpace h)⟩
    | .error e => .error e
  | 'f' :: rest =>
    match h' : skipWord "alse".toList rest with
    | .ok rest' =>
      .ok ⟨false, rest', Nat.lt_of_le_of_lt (length_of_skipWord h') (length_lt_of_skipSpace h)⟩
    | .error e => .error e
  | _ => .error (unexpected "a boolean" text)

def null (expected : String) : Decoder Unit := fun text =>
  match h : skipSpace text with
  | 'n' :: rest =>
    match h' : skipWord "ull".toList rest with
    | .ok rest' =>
      .ok ⟨(), rest', Nat.lt_of_le_of_lt (length_of_skipWord h') (length_lt_of_skipSpace h)⟩
    | .error e => .error e
  | _ => .error (unexpected expected text)

/-- Whether an array goes on, `first` telling whether no element has been read yet: the text of the
next element, or `none` at the closing bracket. -/
def nextElement (first : Bool) (text : List Char) :
    Except Error (Option { rest : List Char // rest.length ≤ text.length }) :=
  match h : skipSpace text with
  | [] => .error .truncated
  | ']' :: _ => .ok none
  | ',' :: rest =>
    if first then .ok (some ⟨text, Nat.le_refl _⟩)
    else
      match skipSpace rest with
      | [] => .error .truncated
      | ']' :: _ => .error .malformed
      | _ => .ok (some ⟨rest, Nat.le_of_lt (length_lt_of_skipSpace h)⟩)
  | _ => if first then .ok (some ⟨text, Nat.le_refl _⟩) else .error .malformed

/-- Reads a bracket or a colon. -/
def readMark (mark : Char) (text : List Char) : Except Error (Read Unit text) :=
  match h : skipSpace text with
  | [] => .error .truncated
  | c :: rest =>
    if c = mark then .ok ⟨(), rest, length_lt_of_skipSpace h⟩ else .error .malformed

/-- The elements of an array after its opening bracket, up to its closing one. -/
def elements {α : Type} (element : Decoder α) (first : Bool) (text : List Char) :
    Except Error { r : List α × List Char // r.2.length ≤ text.length } := do
  match ← nextElement first text with
  | none => return ⟨([], text), Nat.le_refl _⟩
  | some ⟨text', h⟩ =>
    let x ← element text'
    let ⟨(xs, rest), h'⟩ ← elements element false x.rest
    return ⟨(x.value :: xs, rest), by have := x.shorter; simp only at *; omega⟩
termination_by text.length
decreasing_by have := x.shorter; omega

def list {α : Type} (element : Decoder α) : Decoder (List α) := fun text =>
  match h : skipSpace text with
  | '[' :: rest => do
    let ⟨(xs, rest'), h'⟩ ← elements element true rest
    let close ← readMark ']' rest'
    return ⟨xs, close.rest, by
      have := close.shorter; have := length_lt_of_skipSpace h; simp only at *; omega⟩
  | _ => .error (unexpected "a sequence" text)

/-- A field of a record: its name, and reading its value into a record in the making. -/
structure Field (σ : Type) where
  name : String
  read : σ → Decoder σ

/-- A field whose value `decoder` reads and `set` puts into the record. -/
def Field.ofDecoder {σ α : Type} (name : String) (decoder : Decoder α) (set : σ → α → σ) :
    Field σ :=
  ⟨name, fun record text => return (← decoder text).map (set record)⟩

/-- The name of the next member of an object, `first` telling whether no member has been read yet;
`none` at the closing bracket. -/
def nextKey (first : Bool) (text : List Char) : Except Error (Option (Read String text)) :=
  match h : skipSpace text with
  | [] => .error .truncated
  | '\x7d' :: _ => .ok none
  | ',' :: rest =>
    if first then .error .malformed
    else
      match h' : skipSpace rest with
      | [] => .error .truncated
      | '"' :: rest' => do
        let s ← readString rest'
        return some ⟨s.value, s.rest, by
          have := s.shorter; have := length_lt_of_skipSpace h; have := length_lt_of_skipSpace h'
          omega⟩
      | _ => .error .malformed
  | '"' :: rest =>
    if first then do
      let s ← readString rest
      return some ⟨s.value, s.rest, Nat.lt_trans s.shorter (length_lt_of_skipSpace h)⟩
    else .error .malformed
  | _ => .error .malformed

/-- What reading the members of an object leaves: the record, the names of the fields read, the
last one first, and the text from the closing bracket on. -/
structure Members (σ : Type) (text : List Char) where
  record : σ
  seen : List String
  rest : List Char
  le_length : rest.length ≤ text.length

/-- Reads the members of an object into a record in the making, skipping those it has no field
for. A name that comes again is refused before its value is looked at. -/
def members {σ : Type} (fields : List (Field σ)) (first : Bool) (seen : List String) (start : σ)
    (text : List Char) : Except Error (Members σ text) := do
  match ← nextKey first text with
  | none => return ⟨start, seen, text, Nat.le_refl _⟩
  | some key =>
    match fields.find? (·.name == key.value) with
    | some field =>
      if field.name ∈ seen then throw (.mismatch (.duplicateField field.name))
      let colon ← readMark ':' key.rest
      let x ← field.read start colon.rest
      let r ← members fields false (field.name :: seen) x.value x.rest
      return ⟨r.record, r.seen, r.rest, by
        have := key.shorter; have := colon.shorter; have := x.shorter; have := r.le_length; omega⟩
    | none =>
      let colon ← readMark ':' key.rest
      let x ← skipValue colon.rest
      let r ← members fields false seen start x.rest
      return ⟨r.record, r.seen, r.rest, by
        have := key.shorter; have := colon.shorter; have := x.shorter; have := r.le_length; omega⟩
termination_by text.length
decreasing_by
  · have := key.shorter; have := colon.shorter; have := x.shorter; omega
  · have := key.shorter; have := colon.shorter; have := x.shorter; omega

/-- Reads the elements of an array into the fields of a record in the making, in order; `index` is
the number of fields already read. -/
def positional {σ : Type} (expected : String) (index : Nat) :
    List (Field σ) → σ → (text : List Char) →
      Except Error { r : σ × List Char // r.2.length ≤ text.length }
  | [], start, text => .ok ⟨(start, text), Nat.le_refl _⟩
  | field :: fields, start, text => do
    match ← nextElement (index == 0) text with
    | none => throw (.mismatch (.invalidLength index expected))
    | some ⟨text', h⟩ =>
      let x ← field.read start text'
      let ⟨r, h'⟩ ← positional expected (index + 1) fields x.value x.rest
      return ⟨r, by have := x.shorter; omega⟩

/-- The wording of how many elements a record has. -/
def elementCount (n : Nat) : String := if n = 1 then "1 element" else s!"{n} elements"

/-- Decodes a record of the name `name`, filling in the fields of `start`. -/
def record {σ : Type} (name : String) (fields : List (Field σ)) (start : σ) : Decoder σ :=
  fun text =>
    match h : skipSpace text with
    | '[' :: rest => do
      let expected := s!"struct {name} with {elementCount fields.length}"
      let ⟨(x, rest'), h'⟩ ← positional expected 0 fields start rest
      let close ← readMark ']' rest'
      return ⟨x, close.rest, by
        have := close.shorter; have := length_lt_of_skipSpace h; simp only at *; omega⟩
    | '\x7b' :: rest => do
      let r ← members fields true [] start rest
      match fields.find? fun field => field.name ∉ r.seen with
      | some field => throw (.mismatch (.missingField field.name))
      | none =>
        let close ← readMark '\x7d' r.rest
        return ⟨r.record, close.rest, by
          have := close.shorter; have := r.le_length; have := length_lt_of_skipSpace h; omega⟩
    | _ => .error (unexpected s!"struct {name}" text)

/-- Reads a text that is one value. -/
def decode {α : Type} (decoder : Decoder α) (text : List Char) : Except Error α := do
  let r ← decoder text
  if skipSpace r.rest = [] then return r.value else throw .malformed

end PostSieve.Json
