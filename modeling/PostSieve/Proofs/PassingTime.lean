import PostSieve.Proofs.AgeTexts
import PostSieve.Proofs.CountingBack
import PostSieve.Proofs.SingleConditions

/-! The passing of time: when the instant that an age is counted back to moves on with the moment it
is counted from, and when a post that is old enough stays so. -/

namespace PostSieve.Calendar

/-! ### Counting an age back -/

namespace Age

/-- Whether an age leads from a moment back to a later instant than from the moment `later`. -/
inductive Reverses (age : Age) (now later : Instant) : Prop
  /-- The days of the two moments become the last day of a shorter month, and the time of day is
  the later one at the first moment. -/
  | monthEnd : now.date.monthIndex = later.date.monthIndex → now.date.day < later.date.day →
      now.date.lengthEarlier age.totalMonths ≤ now.date.day →
      Prod.Lex (· < ·) (· < ·) (age.clock later) (age.clock now) → Reverses age now later
  /-- Days are counted back from a leap second, and the two instants lie in the same second. -/
  | leapSecond : age.days ≠ 0 → 1000000000 ≤ now.nanos →
      86400 * (age.monthDay now).number + (age.clock now).1 =
        86400 * (age.monthDay later).number + (age.clock later).1 →
      (age.clock later).2 < (age.clock now).2 → Reverses age now later

variable {age : Age} {now later t t' : Instant}

/-- On one day a later moment has a later time of day, but for a leap second that is moved. -/
theorem leap_of_clock_lt (hNow : now ≤ later) (hDate : now.date.number = later.date.number)
    (hClock : Prod.Lex (· < ·) (· < ·) (age.clock later) (age.clock now)) :
    (age.days ≠ 0 ∧ 1000000000 ≤ now.nanos) ∧ (age.clock now).1 = (age.clock later).1 ∧
      (age.clock later).2 < (age.clock now).2 := by
  have hSeconds := now.seconds_eq
  have hSeconds' := later.seconds_eq
  have hNanos := now.nanos_lt
  rw [Instant.le_def] at hNow
  rw [Prod.lex_def] at hClock
  simp only [clock] at hClock ⊢
  split_ifs at hClock ⊢ with hLeap hLeap' hLeap' <;> simp only at hClock ⊢
  · omega
  · refine ⟨hLeap, ?_⟩
    have : later.nanos < 1000000000 := by
      by_contra hMore
      exact hLeap' ⟨hLeap.1, Nat.not_lt.mp hMore⟩
    omega
  · omega
  · omega

theorem lt_iff_reverses (hNow : now ≤ later) (h : age.before now = .ok t)
    (h' : age.before later = .ok t') : t' < t ↔ age.Reverses now later := by
  obtain ⟨hSeconds, hNanos⟩ := before_eq_ok_iff.mp h
  obtain ⟨hSeconds', hNanos'⟩ := before_eq_ok_iff.mp h'
  have hDate : now.date.number ≤ later.date.number := by
    have := now.seconds_eq
    have := later.seconds_eq
    have := now.secondOfDay_lt
    have := later.secondOfDay_lt
    rw [Instant.le_def] at hNow
    omega
  have hMonths : (age.monthDay now).number ≤ (age.monthDay later).number :=
    Date.number_monthsEarlier_le hDate _
  rw [Instant.lt_def, hSeconds, hSeconds', hNanos, hNanos', secondBefore, secondBefore]
  constructor
  · intro hLt
    rcases Int.lt_or_eq_of_le hMonths with hMonth | hMonth
    · -- Only the second behind the last one of a day can lie on the next day.
      rcases age.clock_fst_le now with hClock | ⟨hClock, hDays, hLeap⟩
      · omega
      · exact .leapSecond hDays hLeap (by omega) (by omega)
    · have hClock : Prod.Lex (· < ·) (· < ·) (age.clock later) (age.clock now) := by
        rw [Prod.lex_def]
        omega
      rcases Int.lt_or_eq_of_le hDate with hDay | hDay
      · obtain ⟨hIndex, hLength⟩ := (Date.number_monthsEarlier_eq_iff hDay _).mp hMonth
        have hAdd := Date.number_add_day hIndex
        exact .monthEnd hIndex (by omega) hLength hClock
      · obtain ⟨⟨hDays, hLeap⟩, hSame, hFraction⟩ := leap_of_clock_lt hNow hDay hClock
        exact .leapSecond hDays hLeap (by omega) hFraction
  · rintro (⟨hIndex, hDay, hLength, hClock⟩ | ⟨-, -, hSecond, hFraction⟩)
    · have hAdd := Date.number_add_day hIndex
      have hMonth : (age.monthDay now).number = (age.monthDay later).number :=
        (Date.number_monthsEarlier_eq_iff (by omega) _).mpr ⟨hIndex, hLength⟩
      rw [Prod.lex_def] at hClock
      omega
    · omega

end Age

end PostSieve.Calendar

namespace PostSieve.Rule

open Calendar (Instant Age)

/-! ### Rules about ages -/

theorem conditionText_older (literal : String) :
    Field.age.conditionText .gt literal = "age > " ++ literal := rfl

theorem gt_mem_operators : TokenKind.gt ∈ Field.age.operators := by decide

/-- A rule about an age admits the posts from before the instant that the age leads back to. -/
theorem older_of_read {options : Options} {literal : String} {age : Age} {rule : Rule}
    (hAge : Age.read literal = .ok age) (h : Rule.read options ("age > " ++ literal) = .ok rule) :
    0 < options.maxConditions ∧ ∃ t, age.before options.now = .ok t ∧
      ∀ post, rule.admits post = true ↔ post.createdAt < t := by
  rw [← conditionText_older] at h
  obtain ⟨hCount, ⟨t, ht⟩, hAdmits⟩ :=
    read_conditionText gt_mem_operators (Age.language_of_read hAge) h
  have hBefore : age.before options.now = .ok t := by
    obtain ⟨age', hAge', hBefore⟩ := bind_eq_ok_iff.mp ht
    cases hAge.symm.trans hAge'
    exact hBefore
  refine ⟨hCount, t, hBefore, fun post => ?_⟩
  rw [hAdmits, Field.holds_age_iff ht]
  simp

theorem exists_read_older {options : Options} {literal : String} {t : Instant}
    (hCount : 0 < options.maxConditions) (h : Age.instantBefore literal options.now = .ok t) :
    ∃ rule, Rule.read options ("age > " ++ literal) = .ok rule ∧
      ∀ post, rule.admits post = true ↔ post.createdAt < t := by
  rw [← conditionText_older]
  exact exists_read_agedOver List.mem_cons_self hCount h

/-- The instant that an age is counted back to moves on with the moment that it is counted from,
save in two cases. Days at the end of a month can become the same last day of a shorter month, and
then the earlier time of day gives the earlier instant; and where days are counted back, a leap
second becomes the second behind it, within which the order can be the other way round. A post that
is older than an age at one moment is so at a later one exactly if the instants are in order. -/
theorem instantBefore_le_iff {literal : String} {now later t t' : Instant} (hNow : now ≤ later)
    (h : Age.instantBefore literal now = .ok t) (h' : Age.instantBefore literal later = .ok t') :
    (∃ age, Age.read literal = .ok age ∧ (t ≤ t' ↔ ¬ age.Reverses now later)) ∧
    ∀ options : Options, 0 < options.maxConditions → ∃ rule rule',
      Rule.read { options with now } ("age > " ++ literal) = .ok rule ∧
      Rule.read { options with now := later } ("age > " ++ literal) = .ok rule' ∧
      ((∀ post, rule.admits post = true → rule'.admits post = true) ↔ t ≤ t') := by
  obtain ⟨age, hAge, hBefore⟩ := bind_eq_ok_iff.mp h
  obtain ⟨age', hAge', hBefore'⟩ := bind_eq_ok_iff.mp h'
  cases hAge.symm.trans hAge'
  refine ⟨⟨age, hAge, ?_⟩, fun options hCount => ?_⟩
  · rw [← Std.not_lt, Age.lt_iff_reverses hNow hBefore hBefore']
  · obtain ⟨rule, hRead, hAdmits⟩ :=
      @exists_read_older { options with now } literal t hCount h
    obtain ⟨rule', hRead', hAdmits'⟩ :=
      @exists_read_older { options with now := later } literal t' hCount h'
    refine ⟨rule, rule', hRead, hRead', ?_⟩
    simp only [hAdmits, hAdmits']
    constructor
    · intro hPosts
      rw [← Std.not_lt]
      intro hLt
      -- A post of the earlier instant would match at the first moment alone.
      exact Std.lt_irrefl (hPosts (Post.new 0 t' "") hLt)
    · exact fun hLe post hPost => Std.lt_of_lt_of_le hPost hLe

/-! ### The end of March -/

/-- Noon of 30 March 2021. -/
def marchNoon : Instant := .ofSecond 1617105600 (by decide) (by decide)

/-- The beginning of 31 March 2021. -/
def marchMidnight : Instant := .ofSecond 1617148800 (by decide) (by decide)

/-- Noon of 28 February 2021. -/
def februaryNoon : Instant := .ofSecond 1614513600 (by decide) (by decide)

/-- The beginning of 28 February 2021. -/
def februaryMidnight : Instant := .ofSecond 1614470400 (by decide) (by decide)

theorem instantBefore_marchNoon : Age.instantBefore "1m" marchNoon = .ok februaryNoon := by decide

theorem instantBefore_marchMidnight :
    Age.instantBefore "1m" marchMidnight = .ok februaryMidnight := by decide

theorem instantBefore_le_iff_march : marchNoon ≤ marchMidnight ∧
    Age.instantBefore "1m" marchNoon = .ok februaryNoon ∧
    Age.instantBefore "1m" marchMidnight = .ok februaryMidnight ∧
    (∃ age, Age.read "1m" = .ok age ∧
      (februaryNoon ≤ februaryMidnight ↔ ¬ age.Reverses marchNoon marchMidnight)) ∧
    ∀ options : Options, 0 < options.maxConditions → ∃ rule rule',
      Rule.read { options with now := marchNoon } ("age > " ++ "1m") = .ok rule ∧
      Rule.read { options with now := marchMidnight } ("age > " ++ "1m") = .ok rule' ∧
      ((∀ post, rule.admits post = true → rule'.admits post = true) ↔
        februaryNoon ≤ februaryMidnight) :=
  ⟨by decide, instantBefore_marchNoon, instantBefore_marchMidnight,
    instantBefore_le_iff (by decide) instantBefore_marchNoon instantBefore_marchMidnight⟩

/-- Half a second into the leap second at the end of 2016. -/
def leapSecond : Instant :=
  ⟨1483228799, 1500000000, by decide, by decide, by decide, by decide⟩

/-- A fifth of a second into 2017. -/
def newYear : Instant := ⟨1483228800, 200000000, by decide, by decide, by decide, by decide⟩

/-- At noon of 30 March a month leads back to a later instant than at midnight after it, and a post
from between the two is older than a month at first and is not so any more then. In a leap second a
day leads back to a later instant than in the second behind it. -/
theorem instantBefore_not_mono : (marchNoon ≤ marchMidnight ∧
    Age.instantBefore "1m" marchNoon = .ok februaryNoon ∧
    Age.instantBefore "1m" marchMidnight = .ok februaryMidnight ∧
    ¬ februaryNoon ≤ februaryMidnight ∧
    ∃ rule rule' post, Rule.read { now := marchNoon } "age > 1m" = .ok rule ∧
      Rule.read { now := marchMidnight } "age > 1m" = .ok rule' ∧
      rule.admits post = true ∧ rule'.admits post = false) ∧
    leapSecond ≤ newYear ∧ ∃ t t', Age.instantBefore "1d" leapSecond = .ok t ∧
      Age.instantBefore "1d" newYear = .ok t' ∧ ¬ t ≤ t' := by
  constructor
  · obtain ⟨rule, hRead, hAdmits⟩ :=
      @exists_read_older { now := marchNoon } "1m" _ (by decide) instantBefore_marchNoon
    obtain ⟨rule', hRead', hAdmits'⟩ :=
      @exists_read_older { now := marchMidnight } "1m" _ (by decide) instantBefore_marchMidnight
    refine ⟨by decide, instantBefore_marchNoon, instantBefore_marchMidnight, by decide, rule,
      rule', Post.new 0 februaryMidnight "", hRead, hRead', (hAdmits _).mpr (by decide), ?_⟩
    rw [Bool.eq_false_iff, Ne, hAdmits']
    decide
  · exact ⟨by decide, ⟨1483142400, 500000000, by decide, by decide, by decide, by decide⟩,
      ⟨1483142400, 200000000, by decide, by decide, by decide, by decide⟩, by decide, by decide,
      by decide⟩

end PostSieve.Rule
