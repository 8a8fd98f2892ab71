import PostSieve.Rule.Reading

/-! Samples: posts and rules around one fixed instant. -/

namespace PostSieve.Sample

open Calendar (Instant Date)

/-- Noon of 15 June 2021. -/
def now : Instant := .ofSecond 1623758400 (by decide) (by decide)

/-- The rule of a text, with ages counted back from the fixed instant. -/
def rule (text : String) : Except Rule.RuleError Rule := Rule.read { now } text

def post (text : String) : Post := .new 1 now text

/-- A post as many months and then days before the fixed instant, if there is such an instant;
negative days lie after it. -/
def agedPost? (months : Nat) (days : Int) : Option Post := do
  let start ← now.monthsEarlier? months
  let createdAt ← Instant.ofParts? (start.seconds - 86400 * days) start.nanos
  return .new 1 createdAt ""

/-- A post of the midnight with which a day begins, if the calendar has the day. -/
def postOn? (year : Int) (month day : Nat) : Option Post := do
  let createdAt ← Date.ofParts? year month day >>= Instant.midnight?
  return .new 1 createdAt ""

end PostSieve.Sample
