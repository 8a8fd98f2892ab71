import PostSieve.Calendar.Layout

/-! Timestamps: the written form of an instant, such as `2018-10-10T20:19:24.5+00:00`. -/

namespace PostSieve.Calendar

/-- Four digits for the years 0 to 9999, a sign and at least four digits for the others. -/
def yearText (year : Int) : String :=
  if 0 ≤ year ∧ year ≤ 9999 then padded 4 year.toNat
  else (if year < 0 then "-" else "+") ++ padded 4 year.natAbs

/-- The point and the digits of a fraction of a second: three, six or nine of them, as few as write
it exactly, and nothing for zero. -/
def fractionText (nanos : Nat) : String :=
  if nanos = 0 then ""
  else if nanos % 1000000 = 0 then "." ++ padded 3 (nanos / 1000000)
  else if nanos % 1000 = 0 then "." ++ padded 6 (nanos / 1000)
  else "." ++ padded 9 nanos

namespace Instant

/-- Date, time and fraction of an instant; a leap second is the second 60. -/
def clockText (t : Instant) : String :=
  let date := t.date
  let time := t.secondOfDay
  let leap := t.nanos / 1000000000
  yearText date.year ++ "-" ++ padded 2 date.month ++ "-" ++ padded 2 date.day ++ "T" ++
    padded 2 (time / 3600) ++ ":" ++ padded 2 (time / 60 % 60) ++ ":" ++
    padded 2 (time % 60 + leap) ++ fractionText (t.nanos % 1000000000)

/-- The timestamp with its offset written in digits. -/
def text (t : Instant) : String := t.clockText ++ "+00:00"

/-- The timestamp with its offset written as a letter. -/
def zuluText (t : Instant) : String := t.clockText ++ "Z"

def readTimestamp? (text : String) : Option Instant :=
  Layout.read timestampLayout {} text.toList >>= Fields.instant?

end Instant

end PostSieve.Calendar
