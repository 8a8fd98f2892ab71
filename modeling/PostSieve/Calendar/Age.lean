import PostSieve.Calendar.Instant
import PostSieve.Text.Decimal

/-! Ages: spans of years, months and days such as `1y2m3d`, counted back from an instant. -/

namespace PostSieve.Calendar

/-- What can be wrong with an age or with a date, with the text that is at fault. -/
inductive AgeError
  | malformed (literal : String)
  | outOfRange (age : String)
  | noSuchDate (literal : String)
deriving DecidableEq, Repr

def AgeError.message : AgeError → String
  | malformed literal => s!"Invalid age string: {literal}"
  | outOfRange age => s!"Age out of range: {age}"
  | noSuchDate literal => s!"Invalid date (expected DD-Mon-YYYY): {literal}"

/-- The word that holds a number, if one does. -/
def word32? (n : Nat) : Option UInt32 := if n < UInt32.size then some (.ofNat n) else none

/-- A span of time in calendar units. -/
structure Age where
  years : UInt32 := 0
  months : UInt32 := 0
  days : UInt32 := 0
deriving DecidableEq, Repr

/-- The digits in front of `unit` at the start of the text, and the text after the unit; no digits
and the whole text where there is no such group. -/
def takeUnit (unit : Char) (text : List Char) : List Char × List Char :=
  let digits := text.takeWhile Char.isDigit
  match digits, text.dropWhile Char.isDigit with
  | _ :: _, c :: rest => if c = unit then (digits, rest) else ([], text)
  | _, _ => ([], text)

namespace Age

/-- The total number of months in the years and months of an age. -/
def totalMonths (age : Age) : Nat := 12 * age.years.toNat + age.months.toNat

/-- The total number of months, if it fits into 32 bits at each step. -/
def totalMonths32? (age : Age) : Option UInt32 := do
  let months ← word32? (age.years.toNat * 12)
  word32? (months.toNat + age.months.toNat)

/-- The count that a group writes; a group that is missing counts zero. -/
def readCount? (digits : List Char) : Option UInt32 :=
  if digits = [] then some 0 else readWord32? digits

/-- Reads an age: years, months and days in this order, each optional, but not all missing. -/
def read (literal : String) : Except AgeError Age :=
  let (years, rest) := takeUnit 'y' literal.toList
  let (months, rest) := takeUnit 'm' rest
  let (days, rest) := takeUnit 'd' rest
  if rest ≠ [] ∨ (years = [] ∧ months = [] ∧ days = []) then .error (.malformed literal)
  else
    match readCount? years, readCount? months, readCount? days with
    | some years, some months, some days => .ok { years, months, days }
    | _, _, _ => .error (.outOfRange literal)

/-- A nonzero count and its unit letter. -/
def unitText (count : UInt32) (unit : Char) : String :=
  if count = 0 then "" else (toString count.toNat).push unit

/-- Writes an age, leaving out the units of which there are none; an empty span is `0d`. -/
def text (age : Age) : String :=
  if age.years = 0 ∧ age.months = 0 ∧ age.days = 0 then "0d"
  else unitText age.years 'y' ++ unitText age.months 'm' ++ unitText age.days 'd'

/-- The instant that lies an age before `now`, if there is one: first the months back, then the
days. -/
def before? (age : Age) (now : Instant) : Option Instant := do
  let months ← age.totalMonths32?
  let instant ← now.monthsEarlier? months.toNat
  instant.daysEarlier? age.days.toNat

/-- As `before?`, with the age in the error. -/
def before (age : Age) (now : Instant) : Except AgeError Instant :=
  match age.before? now with
  | some instant => .ok instant
  | none => .error (.outOfRange age.text)

/-- The instant that lies as long before `now` as `literal` says. -/
def instantBefore (literal : String) (now : Instant) : Except AgeError Instant :=
  read literal >>= (·.before now)

end Age

end PostSieve.Calendar
