import PostSieve.Json.Reader

/-! Skipping a value that is not wanted. It must be well-formed, but it may nest to any depth, and
its numbers and strings need not have a value. -/

namespace PostSieve.Json

/-- What a value begins with. -/
inductive Head (text : List Char)
  | scalar (rest : List Char) (shorter : rest.length < text.length)
  | array (rest : List Char) (shorter : rest.length < text.length)
  | object (rest : List Char) (shorter : rest.length < text.length)

/-- Skips a word whose first letter has been read. -/
def headWord {text : List Char} (word : String) (rest : List Char)
    (shorter : rest.length < text.length) : Except Error (Head text) :=
  match h : skipWord word.toList rest with
  | .ok rest' => .ok (.scalar rest' (Nat.lt_of_le_of_lt (length_of_skipWord h) shorter))
  | .error e => .error e

/-- Skips a word, a number, a string, or an opening bracket. -/
def skipHead (text : List Char) : Except Error (Head text) :=
  match h : skipSpace text with
  | [] => .error .truncated
  | c :: rest =>
    have shorter : rest.length < text.length := by
      have := length_skipSpace_le text
      rw [h, List.length_cons] at this
      omega
    match c with
    | 'n' => headWord "ull" rest shorter
    | 't' => headWord "rue" rest shorter
    | 'f' => headWord "alse" rest shorter
    | '"' => do
      let chars ← readChars false rest
      return .scalar chars.rest (Nat.lt_trans chars.shorter shorter)
    | '[' => .ok (.array rest shorter)
    | '\x7b' => .ok (.object rest shorter)
    | '-' =>
      match hn : skipNumber rest with
      | .ok rest' => .ok (.scalar rest' (Nat.lt_trans (length_of_skipNumber hn) shorter))
      | .error e => .error e
    | c =>
      if c.isDigit then
        match hn : skipNumber (skipSpace text) with
        | .ok rest' => .ok (.scalar rest'
            (Nat.lt_of_lt_of_le (length_of_skipNumber hn) (length_skipSpace_le text)))
        | .error e => .error e
      else .error .malformed

/-- What is to come within the brackets that are open. -/
inductive Awaited
  | value | key
  /-- A comma or a closing bracket. -/
  | next
deriving DecidableEq

/-- Reads the name of a member and the colon after it, and drops both. -/
def skipKey (text : List Char) : Except Error (Read Unit text) :=
  match h : skipSpace text with
  | [] => .error .truncated
  | '"' :: rest => do
    let chars ← readChars false rest
    match h' : skipSpace chars.rest with
    | [] => throw .truncated
    | ':' :: rest' => return ⟨(), rest', by
        have h₁ := length_skipSpace_le text
        have h₂ := chars.shorter
        have h₃ := length_skipSpace_le chars.rest
        rw [h] at h₁
        rw [h'] at h₃
        simp only [List.length_cons] at *
        omega⟩
    | _ => throw .malformed
  | _ => .error .malformed

/-- How many characters what is awaited takes at least. -/
def Awaited.least : Awaited → Nat
  | value => 1
  | key => 1
  | next => 0

/-- The text after a bracket that closes at once, if it does; `closing` is that bracket. -/
def skipClosing (closing : Char) (text : List Char) :
    Except Error (Option { rest : List Char // rest.length < text.length }) :=
  match h : skipSpace text with
  | [] => .error .truncated
  | c :: rest =>
    if c = closing then
      .ok (some ⟨rest, by
        have := length_skipSpace_le text
        rw [h, List.length_cons] at this
        omega⟩)
    else .ok none

/-- Skips what is awaited, and then to the end of the outermost bracket that is open; `objects`
tells for each, the innermost first, whether it is an object. -/
def skipNested (awaited : Awaited) (objects : List Bool) (text : List Char) :
    Except Error { rest : List Char // rest.length + awaited.least ≤ text.length } :=
  match awaited with
  | .value => do
    match ← skipHead text with
    | .scalar rest shorter =>
      let ⟨rest', h⟩ ← skipNested .next objects rest
      return ⟨rest', by simp only [Awaited.least] at *; omega⟩
    | .array rest shorter =>
      match ← skipClosing ']' rest with
      | some ⟨rest', _⟩ =>
        let ⟨rest'', h⟩ ← skipNested .next objects rest'
        return ⟨rest'', by simp only [Awaited.least] at *; omega⟩
      | none =>
        let ⟨rest', h⟩ ← skipNested .value (false :: objects) rest
        return ⟨rest', by simp only [Awaited.least] at *; omega⟩
    | .object rest shorter =>
      match ← skipClosing '\x7d' rest with
      | some ⟨rest', _⟩ =>
        let ⟨rest'', h⟩ ← skipNested .next objects rest'
        return ⟨rest'', by simp only [Awaited.least] at *; omega⟩
      | none =>
        let ⟨rest', h⟩ ← skipNested .key (true :: objects) rest
        return ⟨rest', by simp only [Awaited.least] at *; omega⟩
  | .key => do
    let key ← skipKey text
    let ⟨rest, h⟩ ← skipNested .value objects key.rest
    return ⟨rest, by have := key.shorter; simp only [Awaited.least] at *; omega⟩
  | .next =>
    match objects with
    | [] => .ok ⟨text, Nat.le_refl _⟩
    | object :: outer =>
      match h' : skipSpace text with
      | [] => .error .truncated
      | c :: rest => do
        have := length_skipSpace_le text
        have : rest.length < text.length := by rw [h', List.length_cons] at this; omega
        if c = ',' then
          let ⟨rest', h⟩ ← skipNested (if object then .key else .value) objects rest
          return ⟨rest', by simp only [Awaited.least] at *; omega⟩
        else if c = (if object then '\x7d' else ']') then
          let ⟨rest', h⟩ ← skipNested .next outer rest
          return ⟨rest', by simp only [Awaited.least] at *; omega⟩
        else throw .malformed
termination_by text.length
decreasing_by
  all_goals
    try have := key.shorter
    omega

def skipValue : Decoder Unit := fun text => do
  let ⟨rest, h⟩ ← skipNested .value [] text
  return ⟨(), rest, h⟩

end PostSieve.Json
