/-! Decimal numbers in texts: their values, their bounded readings, and writing with leading
zeros. -/

namespace PostSieve

def digitValue (c : Char) : Nat := c.toNat - '0'.toNat

/-- The number that `digits` write in base ten; none at all write zero. -/
def decimalValue (digits : List Char) : Nat :=
  digits.foldl (fun n c => 10 * n + digitValue c) 0

/-- `n` in base ten, with zeros in front up to `width` digits. -/
def padded (width n : Nat) : String :=
  let digits := (toString n).toList
  String.ofList (List.replicate (width - digits.length) '0' ++ digits)

/-- Reads `text` as a number below 2^32, all of it digits. -/
def readWord32? (text : List Char) : Option UInt32 :=
  if text ≠ [] ∧ text.all Char.isDigit ∧ decimalValue text < UInt32.size then
    some (UInt32.ofNat (decimalValue text))
  else none

/-- Reads `text` as a number below 2^64, all of it digits. -/
def readWord64? (text : List Char) : Option UInt64 :=
  if text ≠ [] ∧ text.all Char.isDigit ∧ decimalValue text < UInt64.size then
    some (UInt64.ofNat (decimalValue text))
  else none

/-- As `readWord64?`, with a plus sign allowed in front. -/
def readSignedWord64? : List Char → Option UInt64
  | '+' :: digits => readWord64? digits
  | digits => readWord64? digits

end PostSieve
