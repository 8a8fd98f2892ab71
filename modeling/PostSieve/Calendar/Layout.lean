import PostSieve.Calendar.Age
import PostSieve.Text.Blank

/-! Layouts of dates and times: what stands where in a text, and reading a text by one. -/

namespace PostSieve.Calendar

/-- One place of a layout. -/
inductive LayoutItem
  /-- Blanks, or none. -/
  | blank
  | literal (c : Char)
  /-- `T`, `t` or a space, between a date and a time. -/
  | timeMark
  | weekdayName | monthName
  | year | month | day | hour | minute | second
  /-- A point and the digits after it, or nothing. -/
  | fraction
  /-- A distance from Coordinated Universal Time in hours and minutes. -/
  | offset
  /-- An offset, `Z` or `UTC`. -/
  | zone
deriving DecidableEq, Repr

abbrev Layout := List LayoutItem

/-- `10-May-2020`. -/
def dateLayout : Layout := [.day, .literal '-', .monthName, .literal '-', .year]

/-- `Wed Oct 10 20:19:24 +0000 2018`. -/
def archiveLayout : Layout :=
  [.weekdayName, .blank, .monthName, .blank, .day, .blank, .hour, .literal ':', .minute,
    .literal ':', .second, .blank, .offset, .blank, .year]

/-- `2018-10-10T20:19:24.5+00:00`, with blanks allowed in front of most marks. -/
def timestampLayout : Layout :=
  [.year, .blank, .literal '-', .month, .blank, .literal '-', .day, .timeMark, .hour, .blank,
    .literal ':', .minute, .blank, .literal ':', .second, .fraction, .blank, .zone, .blank]

/-- What a layout has read so far. -/
structure Fields where
  year : Int := 1970
  month : Nat := 1
  day : Nat := 1
  weekday : Option Nat := none
  hour : Nat := 0
  minute : Nat := 0
  second : Nat := 0
  nanos : Nat := 0
  /-- Seconds east of Coordinated Universal Time. -/
  offset : Int := 0
deriving Repr

/-- The short names of the months, January first. -/
def monthNames : List String :=
  ["Jan", "Feb", "Mar", "Apr", "May", "Jun", "Jul", "Aug", "Sep", "Oct", "Nov", "Dec"]

/-- The short names of the days of the week, Sunday first. -/
def weekdayNames : List String := ["Sun", "Mon", "Tue", "Wed", "Thu", "Fri", "Sat"]

/-- The index of the name that the text starts with, in any letter case, and the rest. -/
def takeName (names : List String) (text : List Char) : Option (Nat × List Char) := do
  let start := String.ofList ((text.take 3).map Char.toLower)
  let index ← names.findIdx? fun name => name.toLower == start
  return (index, text.drop 3)

/-- One to `width` digits after optional blanks, as a number. -/
def takeNumber (width : Nat) (text : List Char) : Option (Nat × List Char) :=
  let text := dropBlanks text
  let digits := (text.take width).takeWhile Char.isDigit
  if digits = [] then none else some (decimalValue digits, text.drop digits.length)

/-- As many digits as there are, at least one, with a value below 2^63. -/
def takeLongNumber (text : List Char) : Option (Nat × List Char) :=
  let digits := text.takeWhile Char.isDigit
  if digits = [] ∨ 0x8000000000000000 ≤ decimalValue digits then none
  else some (decimalValue digits, text.drop digits.length)

/-- A year after optional blanks: up to four digits, or a sign and any number of them. -/
def takeYear (text : List Char) : Option (Int × List Char) :=
  match dropBlanks text with
  | '-' :: text => (takeLongNumber text).map fun (n, rest) => (-(n : Int), rest)
  | '+' :: text => (takeLongNumber text).map fun (n, rest) => ((n : Int), rest)
  | text => (takeNumber 4 text).map fun (n, rest) => ((n : Int), rest)

/-- The nanoseconds that the digits after a point write; from the tenth on they are dropped. -/
def fractionNanos (digits : List Char) : Nat :=
  let kept := digits.take 9
  decimalValue kept * Nat.pow 10 (9 - kept.length)

/-- A fraction of a second, zero where there is no point. -/
def takeFraction : List Char → Option (Nat × List Char)
  | '.' :: text =>
    let digits := text.takeWhile Char.isDigit
    if digits = [] then none else some (fractionNanos digits, text.drop digits.length)
  | text => some (0, text)

/-- Two digits of hours and two of minutes with blanks or colons between them, in seconds. -/
def takeHoursMinutes : List Char → Option (Nat × List Char)
  | h₁ :: h₂ :: text =>
    match text.dropWhile fun c => c == ':' || isBlank c with
    | m₁ :: m₂ :: rest =>
      if [h₁, h₂, m₁, m₂].all Char.isDigit ∧ digitValue m₁ < 6 then
        some (3600 * decimalValue [h₁, h₂] + 60 * decimalValue [m₁, m₂], rest)
      else none
    | _ => none
  | _ => none

/-- A sign, of which the minus may be typographic, then hours and minutes, below a whole day. -/
def takeOffset (text : List Char) : Option (Int × List Char) := do
  let (sign, text) ← match text with
    | '+' :: text => some ((1 : Int), text)
    | '-' :: text => some ((-1 : Int), text)
    | '\u2212' :: text => some ((-1 : Int), text)
    | _ => none
  let (seconds, rest) ← takeHoursMinutes text
  if seconds < 86400 then some (sign * seconds, rest) else none

/-- An offset, or one of the two names of the zone without one. -/
def takeZone (text : List Char) : Option (Int × List Char) :=
  if (text.take 3).map Char.toLower = ['u', 't', 'c'] then some (0, text.drop 3)
  else
    match text with
    | 'Z' :: rest => some (0, rest)
    | 'z' :: rest => some (0, rest)
    | _ => takeOffset text

def LayoutItem.read (item : LayoutItem) (fields : Fields) (text : List Char) :
    Option (Fields × List Char) :=
  match item with
  | .blank => some (fields, dropBlanks text)
  | .literal c => match text with
    | d :: rest => if d = c then some (fields, rest) else none
    | [] => none
  | .timeMark => match text with
    | c :: rest => if c = 'T' ∨ c = 't' ∨ c = ' ' then some (fields, rest) else none
    | [] => none
  | .weekdayName => do
    let (index, rest) ← takeName weekdayNames text
    return ({ fields with weekday := some index }, rest)
  | .monthName => do
    let (index, rest) ← takeName monthNames text
    return ({ fields with month := index + 1 }, rest)
  | .year => do
    let (n, rest) ← takeYear text
    return ({ fields with year := n }, rest)
  | .month => do
    let (n, rest) ← takeNumber 2 text
    return ({ fields with month := n }, rest)
  | .day => do
    let (n, rest) ← takeNumber 2 text
    return ({ fields with day := n }, rest)
  | .hour => do
    let (n, rest) ← takeNumber 2 text
    if n ≤ 23 then some ({ fields with hour := n }, rest) else none
  | .minute => do
    let (n, rest) ← takeNumber 2 text
    if n ≤ 59 then some ({ fields with minute := n }, rest) else none
  | .second => do
    let (n, rest) ← takeNumber 2 text
    if n ≤ 60 then some ({ fields with second := n }, rest) else none
  | .fraction => do
    let (n, rest) ← takeFraction text
    return ({ fields with nanos := n }, rest)
  | .offset => do
    let (n, rest) ← takeOffset (dropBlanks text)
    return ({ fields with offset := n }, rest)
  | .zone => do
    let (n, rest) ← takeZone text
    return ({ fields with offset := n }, rest)

/-- Reads a text by a layout, up to its end. -/
def Layout.read : Layout → Fields → List Char → Option Fields
  | [], fields, text => if text = [] then some fields else none
  | item :: items, fields, text => do
    let (fields, rest) ← item.read fields text
    read items fields rest

namespace Fields

/-- The years that dates may have here. -/
def yearInRange (year : Int) : Bool := -262143 ≤ year && year ≤ 262142

/-- The date that was read, if the calendar has it and any weekday named is its own. -/
def date? (fields : Fields) : Option Date := do
  let date ← Date.ofParts? fields.year fields.month fields.day
  if yearInRange fields.year ∧ fields.weekday.all (· == date.weekday) then some date else none

/-- The instant that was read. The sixtieth second is the leap second after the fifty-ninth. -/
def instant? (fields : Fields) : Option Instant := do
  let date ← fields.date?
  let second := min fields.second 59
  let seconds := 86400 * date.number + (3600 * fields.hour + 60 * fields.minute + second : Nat)
  Instant.ofParts? (seconds - fields.offset)
    (fields.nanos + if fields.second = 60 then 1000000000 else 0)

end Fields

/-- The day that a literal such as `10-May-2020` names, from its midnight. -/
def readDate (literal : String) : Except AgeError Instant :=
  match Layout.read dateLayout {} literal.toList >>= Fields.date? >>= Instant.midnight? with
  | some instant => .ok instant
  | none => .error (.noSuchDate literal)

end PostSieve.Calendar
