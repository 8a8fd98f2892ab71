/-! The shortest decimal text of a floating-point number that reads back as the number. -/

namespace PostSieve

/-- A decimal number: its digits as one number, and the power of ten that they count. -/
structure ShortDecimal where
  digits : Nat
  exponent : Int
deriving DecidableEq, Repr

namespace ShortDecimal

/-- Numerator and denominator of `n · 2 ^ e`. -/
def scaled (n : Nat) (e : Int) : Nat × Nat :=
  if 0 ≤ e then (n * Nat.pow 2 e.toNat, 1) else (n, Nat.pow 2 (-e).toNat)

/-- The decimals with exponent `e` next to `num / den`, below and above. -/
def neighbours (num den : Nat) (e : Int) : Nat × Nat :=
  let q := if 0 ≤ e then num / (den * Nat.pow 10 e.toNat) else num * Nat.pow 10 (-e).toNat / den
  (q, q + 1)

/-- Whether `d · 10 ^ e` lies in the interval of the numbers that round to the binary number with
mantissa `4 · m` and exponent `q`, whose lower half is `low` quarters wide; the ends belong to it
if `m` is even. -/
def reads (m : Nat) (q : Int) (low : Nat) (d : Nat) (e : Int) : Bool :=
  let (a, b) := scaled 1 q
  let (num, den) := if 0 ≤ e then (d * Nat.pow 10 e.toNat, 1) else (d, Nat.pow 10 (-e).toNat)
  let value := num * b
  let lower := (4 * m - low) * a * den
  let upper := (4 * m + 2) * a * den
  if m % 2 = 0 then lower ≤ value && value ≤ upper else lower < value && value < upper

/-- The nearest of the decimals with exponent `e` that read back, an even one where two are equally
near. -/
def nearest? (m : Nat) (q : Int) (low : Nat) (e : Int) : Option ShortDecimal :=
  let (num, den) := scaled (4 * m) q
  let (d₁, d₂) := neighbours num den e
  match reads m q low d₁ e && 0 < d₁, reads m q low d₂ e with
  | true, false => some ⟨d₁, e⟩
  | false, true => some ⟨d₂, e⟩
  | false, false => none
  | true, true =>
    let (num, den) :=
      if 0 ≤ e then (num, den * Nat.pow 10 e.toNat) else (num * Nat.pow 10 (-e).toNat, den)
    let twice := 2 * num
    let middle := (d₁ + d₂) * den
    if twice < middle ∨ (twice = middle ∧ d₁ % 2 = 0) then some ⟨d₁, e⟩ else some ⟨d₂, e⟩

/-- The shortest decimal of `m · 2 ^ (q + 2)`, trying the larger exponents first. -/
def shortest (m : Nat) (q : Int) (low : Nat) : ShortDecimal :=
  let candidates := (List.range 660).map fun (i : Nat) => (320 : Int) - i
  (candidates.findSome? fun e => nearest? m q low e).getD ⟨0, 0⟩

end ShortDecimal

/-- Writes a decimal in positional notation if its first digit counts a power of ten from -5 up to
15, else with a signed exponent; a whole number gets a zero fraction. -/
def ShortDecimal.text (d : ShortDecimal) : String :=
  let digits := (Nat.toDigits 10 d.digits)
  let point : Int := digits.length + d.exponent
  let whole (cs : List Char) := String.ofList cs
  if 16 < point ∨ point < -4 then
    let fraction := if digits.length = 1 then "" else "." ++ whole digits.tail
    let exponent := point - 1
    whole (digits.take 1) ++ fraction ++ "e" ++ (if exponent < 0 then "-" else "+") ++
      toString exponent.natAbs
  else if point ≤ 0 then
    "0." ++ whole (List.replicate (-point).toNat '0' ++ digits)
  else if digits.length ≤ point.toNat then
    whole (digits ++ List.replicate (point.toNat - digits.length) '0') ++ ".0"
  else whole (digits.take point.toNat) ++ "." ++ whole (digits.drop point.toNat)

/-- The shortest text of a finite floating-point number. -/
def shortestText (x : Float) : String :=
  let bits := x.toBits.toNat
  let one := 0x10000000000000 -- the leading bit, which is not stored
  let sign := if 2048 * one ≤ bits then "-" else ""
  let biased := bits / one % 2048
  let fraction := bits % one
  let m := if biased = 0 then fraction else fraction + one
  let q : Int := (max biased 1 : Nat) - 1077
  let low := if fraction = 0 ∧ 1 < biased then 1 else 2
  if m = 0 then sign ++ "0.0"
  else sign ++ (ShortDecimal.shortest m q low).text

end PostSieve
