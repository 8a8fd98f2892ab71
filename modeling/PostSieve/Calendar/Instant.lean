import PostSieve.Calendar.Date

/-! Instants of Coordinated Universal Time, to the nanosecond: the range that they keep to, their
order, and going back from one by months and by days. -/

namespace PostSieve.Calendar

/-- The first second of the year −262143. -/
def firstSecond : Int := -8334601228800

/-- The last second of the year 262142. -/
def lastSecond : Int := 8210266876799

/-- A moment, as whole seconds since 1970 began and the nanoseconds after them. From the last
second of a minute the nanoseconds may run on through a leap second. -/
structure Instant where
  seconds : Int
  nanos : Nat
  first_le : firstSecond ≤ seconds
  le_last : seconds ≤ lastSecond
  nanos_lt : nanos < 2000000000
  leap : 1000000000 ≤ nanos → seconds % 60 = 59
deriving DecidableEq

namespace Instant

/-- The instant with these numbers, if it is in range. -/
def ofParts? (seconds : Int) (nanos : Nat) : Option Instant :=
  if h : (firstSecond ≤ seconds ∧ seconds ≤ lastSecond) ∧ nanos < 2000000000 ∧
      (1000000000 ≤ nanos → seconds % 60 = 59) then
    some ⟨seconds, nanos, h.1.1, h.1.2, h.2.1, h.2.2⟩
  else none

def ofSecond (seconds : Int) (first_le : firstSecond ≤ seconds) (le_last : seconds ≤ lastSecond) :
    Instant :=
  ⟨seconds, 0, first_le, le_last, by decide, fun h => absurd h (by decide)⟩

/-- The beginning of 1970. -/
def epoch : Instant := ofSecond 0 (by decide) (by decide)

instance : Inhabited Instant := ⟨epoch⟩

instance : LT Instant :=
  ⟨fun a b => a.seconds < b.seconds ∨ a.seconds = b.seconds ∧ a.nanos < b.nanos⟩

instance : LE Instant :=
  ⟨fun a b => a.seconds < b.seconds ∨ a.seconds = b.seconds ∧ a.nanos ≤ b.nanos⟩

theorem lt_def (a b : Instant) :
    a < b ↔ a.seconds < b.seconds ∨ a.seconds = b.seconds ∧ a.nanos < b.nanos := Iff.rfl

theorem le_def (a b : Instant) :
    a ≤ b ↔ a.seconds < b.seconds ∨ a.seconds = b.seconds ∧ a.nanos ≤ b.nanos := Iff.rfl

instance (a b : Instant) : Decidable (a < b) := decidable_of_iff' _ (lt_def a b)

instance (a b : Instant) : Decidable (a ≤ b) := decidable_of_iff' _ (le_def a b)

instance : Std.IsLinearOrder Instant where
  le_refl a := (le_def a a).mpr (Or.inr ⟨rfl, Nat.le_refl _⟩)
  le_trans a b c hab hbc := by
    rw [le_def] at *
    omega
  le_antisymm a b hab hba := by
    rw [le_def] at hab hba
    cases a
    cases b
    simp only [mk.injEq] at *
    omega
  le_total a b := by
    rw [le_def, le_def]
    omega

instance : Std.LawfulOrderLT Instant where
  lt_iff a b := by
    rw [lt_def, le_def, le_def]
    omega

/-- The day that the instant falls on. -/
def date (t : Instant) : Date := Date.ofNumber (t.seconds / 86400)

/-- The whole seconds of that day in front of the instant. -/
def secondOfDay (t : Instant) : Nat := (t.seconds % 86400).toNat

/-- The instant with which a day begins, if it is in range. -/
def midnight? (d : Date) : Option Instant := ofParts? (86400 * d.number) 0

/-- The most months that can be counted back: as many as a signed number of 32 bits holds. -/
def maxMonths : Nat := 2147483647

/-- The same time of day, calendar months earlier. -/
def monthsEarlier? (t : Instant) (months : Nat) : Option Instant :=
  if months ≤ maxMonths then
    ofParts? (86400 * (t.date.monthsEarlier months).number + t.secondOfDay) t.nanos
  else none

/-- The same time of day, days earlier. A leap second is the second after it on other days. -/
def daysEarlier? (t : Instant) (days : Nat) : Option Instant :=
  if days ≠ 0 ∧ 1000000000 ≤ t.nanos then
    ofParts? (t.seconds + 1 - 86400 * days) (t.nanos - 1000000000)
  else ofParts? (t.seconds - 86400 * days) t.nanos

end Instant

end PostSieve.Calendar
