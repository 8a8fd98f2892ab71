import PostSieve.Proofs.AgeTexts
import PostSieve.Proofs.CountingBack
import PostSieve.Proofs.SingleConditions
import PostSieve.Sample

/-! Conditions on ages and sample posts of an age count back alike: an age is compared with the days
of a post that is as many months old. -/

namespace PostSieve.Calendar.Age

/-- An age in three groups, also for the units of which there are none. -/
def fullText (age : Age) : String :=
  toString age.years.toNat ++ "y" ++ toString age.months.toNat ++ "m" ++
    toString age.days.toNat ++ "d"

theorem groups_fullText (age : Age) : Groups age.fullText (toString age.years.toNat).toList
    (toString age.months.toNat).toList (toString age.days.toNat).toList where
  text_eq := by
    rw [group_toString, group_toString, group_toString]
    simp [fullText]
  years_digits := fun _ => isDigit_of_mem_toString
  months_digits := fun _ => isDigit_of_mem_toString
  days_digits := fun _ => isDigit_of_mem_toString
  ne_nil := fun h => toList_toString_ne_nil _ h.1

theorem read_fullText (age : Age) : read age.fullText = .ok age := by
  rw [age.groups_fullText.read_eq_ok_iff]
  exact ⟨(decimalValue_toString _).symm, (decimalValue_toString _).symm,
    (decimalValue_toString _).symm⟩

theorem instantBefore_fullText (age : Age) (now : Instant) :
    instantBefore age.fullText now = age.before now := by
  rw [instantBefore, read_fullText]
  rfl

end PostSieve.Calendar.Age

namespace PostSieve.Sample

open Calendar (Age Date Instant)

variable {months : Nat} {days : Int} {post : Post} {age : Age} {t : Instant}

/-- A sample post is as many days older than the day to which its months lead back, at noon. -/
theorem createdAt_of_agedPost? (h : agedPost? months days = some post) :
    post.createdAt.seconds =
        86400 * ((now.date.monthsEarlier months).number - days) + now.secondOfDay ∧
      post.createdAt.nanos = now.nanos := by
  obtain ⟨start, hStart, h⟩ := Option.bind_eq_some_iff.mp h
  obtain ⟨createdAt, hCreated, hPost⟩ := Option.bind_eq_some_iff.mp h
  cases hPost
  obtain ⟨hSeconds, hNanos⟩ := Instant.monthsEarlier?_eq_some_iff.mp hStart
  obtain ⟨hSeconds', hNanos'⟩ := Instant.ofParts?_eq_some_iff.mp hCreated
  show createdAt.seconds = _ ∧ createdAt.nanos = _
  exact ⟨by omega, hNanos'.trans hNanos⟩

/-- The days of an age and the days of a post with the same months are counted from one day. -/
theorem lt_iff_days_lt (hAge : age.before now = .ok t)
    (hPost : agedPost? age.totalMonths days = some post) :
    (post.createdAt < t ↔ (age.days.toNat : Int) < days) ∧
      (t < post.createdAt ↔ days < age.days.toNat) := by
  obtain ⟨hSeconds, hNanos⟩ := Age.before_eq_ok_iff.mp hAge
  rw [Age.secondBefore, age.clock_of_lt (by decide : now.nanos < 1000000000), Age.monthDay]
    at hSeconds
  rw [age.clock_of_lt (by decide : now.nanos < 1000000000)] at hNanos
  obtain ⟨hSeconds', hNanos'⟩ := createdAt_of_agedPost? hPost
  simp only at hSeconds hNanos
  rw [Instant.lt_def, Instant.lt_def]
  omega

end PostSieve.Sample

namespace PostSieve.Rule

open Calendar (Age Instant)

/-- Ages in rules and the ages of sample posts agree. Where both can be counted back from the sample
instant, a post that is months and days old is older than an age of the same months exactly if it
has more days, and younger exactly if it has fewer; negative days and a longer way back make no
difference, and neither does an operator that allows for equality. -/
theorem aged_posts_agree {age : Age} {t : Instant} {days : Int} {post : Post}
    (hAge : age.before Sample.now = .ok t)
    (hPost : Sample.agedPost? (12 * age.years.toNat + age.months.toNat) days = some post) :
    (∀ op ∈ [TokenKind.gt, .ge], ∃ rule,
      Sample.rule (Field.age.conditionText op age.fullText) = .ok rule ∧
      (rule.admits post = true ↔ (age.days.toNat : Int) < days)) ∧
    ∀ op ∈ [TokenKind.lt, .le], ∃ rule,
      Sample.rule (Field.age.conditionText op age.fullText) = .ok rule ∧
      (rule.admits post = true ↔ days < age.days.toNat) := by
  obtain ⟨hOlder, hYounger⟩ := Sample.lt_iff_days_lt hAge hPost
  have hCount : 0 < { now := Sample.now : Options }.maxConditions := by decide
  have hInstant : Age.instantBefore age.fullText Sample.now = .ok t :=
    (age.instantBefore_fullText Sample.now).trans hAge
  constructor
  · intro op hOp
    obtain ⟨rule, hRead, hAdmits⟩ := exists_read_agedOver hOp hCount hInstant
    exact ⟨rule, hRead, (hAdmits post).trans hOlder⟩
  · intro op hOp
    obtain ⟨rule, hRead, hAdmits⟩ := exists_read_agedUnder hOp hCount hInstant
    exact ⟨rule, hRead, (hAdmits post).trans hYounger⟩

/-- Thousands of years back, to a day before the year 0, and a post of negative days. -/
theorem aged_posts_agree_sample : ∃ t post,
    (Age.mk 3000 13 0).before Sample.now = .ok t ∧ Sample.agedPost? 36013 (-5) = some post ∧
      ∃ rule, Sample.rule "age <= 3000y13m0d" = .ok rule ∧ rule.admits post = true := by
  obtain ⟨t, hAge⟩ : ∃ t, (Age.mk 3000 13 0).before Sample.now = .ok t :=
    Age.exists_before_iff.mpr (by decide)
  obtain ⟨post, hPost⟩ : ∃ post, Sample.agedPost? 36013 (-5) = some post :=
    Option.isSome_iff_exists.mp (by decide)
  obtain ⟨rule, hRead, hAdmits⟩ := (aged_posts_agree hAge hPost).2 .le (by decide)
  have hText : Field.age.conditionText .le (Age.fullText (Age.mk 3000 13 0)) =
      "age <= 3000y13m0d" := by decide
  exact ⟨t, post, hAge, hPost, rule, hText ▸ hRead, hAdmits.mpr (by decide)⟩

end PostSieve.Rule
