import PostSieve.Json.Error
import PostSieve.Text.Decimal
import PostSieve.Text.Shortest

/-! JSON numbers. Those written as whole numbers are exact as long as they fit into 64 bits; the
others are floating-point numbers, scaled from the digits that fit. -/

namespace PostSieve.Json

inductive Number
  | natural (n : UInt64)
  /-- A number below zero, by its distance from zero. -/
  | negative (n : Nat)
  | real (x : Float)

/-- A number, where another kind of value was wanted. -/
def Number.found : Number → Found
  | natural n => .integer n.toNat
  | negative n => .integer (-n)
  | real x => .real (shortestText x)

/-- Digits gathered into a word, with the power of ten that they count. -/
structure Significand where
  value : Nat
  exponent : Int
  /-- Whether a digit was left out. -/
  full : Bool := false

namespace Significand

/-- Takes up a digit of a whole number, or counts it when the word is full. -/
def whole (s : Significand) (c : Char) : Significand :=
  let value := 10 * s.value + digitValue c
  if !s.full && value < UInt64.size then { s with value }
  else { s with exponent := s.exponent + 1, full := true }

/-- Takes up a digit after the point, or leaves it out when the word is full. -/
def fraction (s : Significand) (c : Char) : Significand :=
  let value := 10 * s.value + digitValue c
  if !s.full && value < UInt64.size then { s with value, exponent := s.exponent - 1 }
  else { s with full := true }

end Significand

/-- The powers of ten as floating-point numbers. -/
def powerOfTen (n : Nat) : Float := .ofScientific 1 false n

/-- Divides `x` by powers of ten too large for one number, until one is left that is not. -/
def scaleDown : Nat → Float → Int → Float
  | 0, x, _ => x
  | rounds + 1, x, exponent =>
    if exponent < -308 then scaleDown rounds (x / powerOfTen 308) (exponent + 308)
    else x / powerOfTen exponent.natAbs

/-- The number that a significand writes, if it is not too large. -/
def Significand.float? (s : Significand) : Option Float :=
  let x := (UInt64.ofNat s.value).toFloat
  if s.exponent < 0 then some (scaleDown 4 x s.exponent)
  else if s.value = 0 then some x
  else if 308 < s.exponent then none
  else
    let y := x * powerOfTen s.exponent.toNat
    if y.isInf then none else some y

/-- The digits at the start of a text and the text after them. -/
def spanDigits (text : List Char) : List Char × List Char :=
  (text.takeWhile Char.isDigit, text.dropWhile Char.isDigit)

/-- Reads the digits of an exponent after its sign, and the number with it. -/
def readExponent (negated below : Bool) (s : Significand) (text : List Char) :
    Except Error (Number × List Char) :=
  match spanDigits text with
  | ([], []) => .error .truncated
  | ([], _) => .error .malformed
  | (digits, rest) =>
    let size := decimalValue digits
    let float? :=
      if 0x80000000 ≤ size then if s.value = 0 ∨ below then some 0.0 else none
      else { s with exponent := if below then s.exponent - size else s.exponent + size }.float?
    match float? with
    | some x => .ok (.real (if negated then -x else x), rest)
    | none => .error .malformed

/-- Reads what may follow the digits of a number with a fraction or of a large one. -/
def readScale (negated : Bool) (s : Significand) (text : List Char) :
    Except Error (Number × List Char) :=
  match text with
  | 'e' :: '-' :: rest | 'E' :: '-' :: rest => readExponent negated true s rest
  | 'e' :: '+' :: rest | 'E' :: '+' :: rest => readExponent negated false s rest
  | 'e' :: rest | 'E' :: rest => readExponent negated false s rest
  | rest =>
    match s.float? with
    | some x => .ok (.real (if negated then -x else x), rest)
    | none => .error .malformed

/-- The value of a whole number whose digits fit into a word. -/
def wholeNumber (negated : Bool) (n : Nat) : Number :=
  if !negated then .natural (UInt64.ofNat n)
  else if 0 < n ∧ n ≤ 0x8000000000000000 then .negative n
  else .real (-(UInt64.ofNat n).toFloat)

/-- Reads a number after its sign. -/
def readNumber (negated : Bool) (text : List Char) : Except Error (Number × List Char) :=
  match spanDigits text with
  | ([], []) => .error .truncated
  | ([], _) => .error .malformed
  | ('0' :: _ :: _, _) => .error .malformed
  | (digits, rest) =>
    let s := digits.foldl .whole ⟨0, 0, false⟩
    match rest with
    | '.' :: rest =>
      match spanDigits rest with
      | ([], []) => .error .truncated
      | ([], _) => .error .malformed
      | (decimals, rest) =>
        readScale negated (decimals.foldl .fraction { s with full := false }) rest
    | 'e' :: _ | 'E' :: _ => readScale negated s rest
    | _ =>
      if s.full then readScale negated s rest else .ok (wholeNumber negated s.value, rest)

/-- Skips the exponent of a number, if there is one. -/
def skipExponent (text : List Char) : Except Error (List Char) :=
  let digits (text : List Char) := match spanDigits text with
    | ([], _) => .error Error.malformed
    | (_, rest) => .ok rest
  match text with
  | 'e' :: '-' :: rest | 'E' :: '-' :: rest => digits rest
  | 'e' :: '+' :: rest | 'E' :: '+' :: rest => digits rest
  | 'e' :: rest | 'E' :: rest => digits rest
  | rest => .ok rest

/-- Skips a number after its sign, whatever its size. -/
def skipNumber (text : List Char) : Except Error (List Char) :=
  match spanDigits text with
  | ([], _) => .error .malformed
  | ('0' :: _ :: _, _) => .error .malformed
  | (_, '.' :: rest) =>
    match spanDigits rest with
    | ([], _) => .error .malformed
    | (_, rest) => skipExponent rest
  | (_, rest) => skipExponent rest

theorem length_of_spanDigits {text digits rest : List Char}
    (h : spanDigits text = (digits, rest)) : digits.length + rest.length = text.length := by
  simp only [spanDigits, Prod.mk.injEq] at h
  rw [← h.1, ← h.2, ← List.length_append, List.takeWhile_append_dropWhile]

theorem length_of_readExponent {negated below : Bool} {s : Significand} {text rest : List Char}
    {n : Number} (h : readExponent negated below s text = .ok (n, rest)) :
    rest.length ≤ text.length := by
  unfold readExponent at h
  split at h
  · cases h
  · cases h
  · rename_i hd
    have := length_of_spanDigits hd
    simp only at h
    split at h <;> cases h
    omega

theorem length_of_readScale {negated : Bool} {s : Significand} {text rest : List Char}
    {n : Number} (h : readScale negated s text = .ok (n, rest)) :
    rest.length ≤ text.length := by
  unfold readScale at h
  split at h
  case h_7 => split at h <;> cases h; exact Nat.le_refl _
  all_goals
    have := length_of_readExponent h
    simp only [List.length_cons]
    omega

/-- A number has at least one digit. -/
theorem length_of_readNumber {negated : Bool} {text rest : List Char} {n : Number}
    (h : readNumber negated text = .ok (n, rest)) : rest.length < text.length := by
  unfold readNumber at h
  split at h
  · cases h
  · cases h
  · cases h
  · rename_i hempty _ hd
    have hlen := length_of_spanDigits hd
    have hpos := List.length_pos_iff.mpr hempty
    simp only at h
    split at h
    · split at h
      · cases h
      · cases h
      · rename_i hf
        have := length_of_spanDigits hf
        have := length_of_readScale h
        simp only [List.length_cons] at *
        omega
    · have := length_of_readScale h; omega
    · have := length_of_readScale h; omega
    · split at h
      · have := length_of_readScale h; omega
      · cases h; omega

theorem length_of_skipExponent {text rest : List Char} (h : skipExponent text = .ok rest) :
    rest.length ≤ text.length := by
  have digits : ∀ text : List Char, (match spanDigits text with
      | ([], _) => .error Error.malformed
      | (_, rest) => .ok rest : Except Error (List Char)) = .ok rest →
      rest.length ≤ text.length := by
    intro text h
    split at h
    · cases h
    · rename_i hd
      have := length_of_spanDigits hd
      cases h
      omega
  unfold skipExponent at h
  simp only at h
  split at h
  case h_7 => cases h; exact Nat.le_refl _
  all_goals
    have := digits _ h
    simp only [List.length_cons]
    omega

theorem length_of_skipNumber {text rest : List Char} (h : skipNumber text = .ok rest) :
    rest.length < text.length := by
  unfold skipNumber at h
  split at h
  · cases h
  · cases h
  · rename_i hd
    have hlen := length_of_spanDigits hd
    split at h
    · cases h
    · rename_i hf
      have := length_of_spanDigits hf
      have := length_of_skipExponent h
      simp only [List.length_cons] at *
      omega
  · rename_i hempty _ _ hd
    have hlen := length_of_spanDigits hd
    have hpos := List.length_pos_iff.mpr hempty
    have := length_of_skipExponent h
    omega

end PostSieve.Json
