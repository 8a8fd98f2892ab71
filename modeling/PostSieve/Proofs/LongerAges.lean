import PostSieve.Proofs.PassingTime

/-! Longer ages: of two ages at one moment, the one with no fewer months and no fewer days leads
further back, and it is the first one to leave the range. -/

namespace PostSieve.Calendar.Age

variable {a b : Age} {now u : Instant}

/-- Whether an age has no more months in all than another one, and no more days. -/
structure Within (a b : Age) : Prop where
  months_le : a.totalMonths ≤ b.totalMonths
  days_le : a.days ≤ b.days

/-- Whether two ages are the same months and days, however the months are written. -/
structure SameSpan (a b : Age) : Prop where
  months_eq : a.totalMonths = b.totalMonths
  days_eq : a.days = b.days

theorem SameSpan.secondBefore_eq (h : a.SameSpan b) (now : Instant) :
    a.secondBefore now = b.secondBefore now ∧ (a.clock now).2 = (b.clock now).2 := by
  simp only [secondBefore, clock, monthDay, h.months_eq, h.days_eq, and_self]

theorem Within.secondBefore_lt (h : a.Within b) (hSpan : ¬ a.SameSpan b) (now : Instant) :
    b.secondBefore now < a.secondBefore now := by
  have hDays := UInt32.le_iff_toNat_le.mp h.days_le
  -- The second that a leap second is moved on by is less than the day that it is moved back by.
  have hSecond : (b.clock now).1 ≤ (a.clock now).1 + 1 := by
    simp only [clock]
    split_ifs <;> simp only <;> omega
  simp only [secondBefore]
  rcases Nat.lt_or_eq_of_le h.months_le with hMonths | hMonths
  · have hEarlier : (b.monthDay now).number < (a.monthDay now).number :=
      now.date.number_monthsEarlier_lt hMonths
    omega
  · have hSame : a.monthDay now = b.monthDay now := by rw [monthDay, monthDay, hMonths]
    have hNe : a.days.toNat ≠ b.days.toNat := fun hEq =>
      hSpan ⟨hMonths, UInt32.toNat_inj.mp hEq⟩
    rw [hSame]
    omega

/-- What a longer age leads to is reached by a shorter one as well, and later unless the two are the
same span. -/
theorem Within.exists_before (h : a.Within b) (hu : b.before now = .ok u) :
    ∃ t, a.before now = .ok t ∧ u ≤ t ∧ (u = t ↔ a.SameSpan b) := by
  obtain ⟨hSeconds, hNanos⟩ := before_eq_ok_iff.mp hu
  by_cases hSpan : a.SameSpan b
  · obtain ⟨hSecond, hClock⟩ := hSpan.secondBefore_eq now
    have ht : a.before now = .ok u :=
      before_eq_ok_iff.mpr ⟨hSeconds.trans hSecond.symm, hNanos.trans hClock.symm⟩
    exact ⟨u, ht, .inr ⟨rfl, Nat.le_refl _⟩, iff_of_true rfl hSpan⟩
  · have hLt := h.secondBefore_lt hSpan now
    have hFirst := Int.le_trans (hSeconds ▸ u.first_le) (Int.le_of_lt hLt)
    obtain ⟨t, ht⟩ := exists_before_iff.mpr hFirst
    have hSecond : u.seconds < t.seconds := by
      rw [hSeconds, (before_eq_ok_iff.mp ht).1]
      exact hLt
    refine ⟨t, ht, .inl hSecond, iff_of_false (fun hEq => ?_) hSpan⟩
    rw [hEq] at hSecond
    exact Int.lt_irrefl _ hSecond

theorem SameSpan.before (h : a.SameSpan b) (now : Instant) :
    (∃ t, a.before now = .ok t ∧ b.before now = .ok t) ∨
      a.before now = .error (.outOfRange a.text) ∧ b.before now = .error (.outOfRange b.text) := by
  obtain ⟨hSecond, hClock⟩ := h.secondBefore_eq now
  by_cases hFirst : firstSecond ≤ b.secondBefore now
  · obtain ⟨t, ht⟩ := exists_before_iff.mpr hFirst
    refine .inl ⟨t, ?_, ht⟩
    rw [before_eq_ok_iff, hSecond, hClock]
    exact before_eq_ok_iff.mp ht
  · have hBefore := Int.not_le.mp hFirst
    exact .inr ⟨before_eq_error_iff.mpr ⟨hSecond ▸ hBefore, rfl⟩,
      before_eq_error_iff.mpr ⟨hBefore, rfl⟩⟩

end PostSieve.Calendar.Age

namespace PostSieve.Rule

open Calendar (Instant Age)

/-- Of two ages at one moment, the one with no fewer months in all and no fewer days leads to an
earlier instant, or to the same one if the two have the same months and days. Where it does not
leave the range, neither does the other one, so that only the months in all and the days of an age
matter; and each post that is older than the longer age is older than the shorter one. -/
theorem before_le_of_within {a b : Age} (h : a.Within b) (now : Instant) :
    (∀ u, b.before now = .ok u →
      ∃ t, a.before now = .ok t ∧ u ≤ t ∧ (u = t ↔ a.SameSpan b)) ∧
    (a.SameSpan b → (∃ t, a.before now = .ok t ∧ b.before now = .ok t) ∨
      a.before now = .error (.outOfRange a.text) ∧ b.before now = .error (.outOfRange b.text)) ∧
    ∀ (options : Options) (shorter longer : String) (older : Rule),
      Age.read shorter = .ok a → Age.read longer = .ok b →
      Rule.read { options with now } ("age > " ++ longer) = .ok older →
      ∃ rule, Rule.read { options with now } ("age > " ++ shorter) = .ok rule ∧
        ∀ post, older.admits post = true → rule.admits post = true := by
  refine ⟨fun u hu => h.exists_before hu, fun hSpan => hSpan.before now, ?_⟩
  intro options shorter longer older hShorter hLonger hOlder
  obtain ⟨hCount, u, hu, hAdmits⟩ := older_of_read hLonger hOlder
  obtain ⟨t, ht, hLe, -⟩ := h.exists_before hu
  have hInstant : Age.instantBefore shorter now = .ok t := bind_eq_ok_iff.mpr ⟨a, hShorter, ht⟩
  obtain ⟨rule, hRead, hAdmits'⟩ :=
    @exists_read_older { options with now } shorter t hCount hInstant
  refine ⟨rule, hRead, fun post hPost => ?_⟩
  rw [hAdmits']
  exact Std.lt_of_lt_of_le ((hAdmits post).mp hPost) hLe

/-- A month, and a year with three days. -/
theorem before_le_of_within_sample : (Age.mk 0 1 0).Within (Age.mk 1 0 3) ∧
    (∀ u, (Age.mk 1 0 3).before Sample.now = .ok u →
      ∃ t, (Age.mk 0 1 0).before Sample.now = .ok t ∧ u ≤ t ∧
        (u = t ↔ (Age.mk 0 1 0).SameSpan (Age.mk 1 0 3))) ∧
    ((Age.mk 0 1 0).SameSpan (Age.mk 1 0 3) →
      (∃ t, (Age.mk 0 1 0).before Sample.now = .ok t ∧
        (Age.mk 1 0 3).before Sample.now = .ok t) ∨
      (Age.mk 0 1 0).before Sample.now = .error (.outOfRange (Age.mk 0 1 0).text) ∧
        (Age.mk 1 0 3).before Sample.now = .error (.outOfRange (Age.mk 1 0 3).text)) ∧
    ∀ (options : Options) (shorter longer : String) (older : Rule),
      Age.read shorter = .ok (Age.mk 0 1 0) → Age.read longer = .ok (Age.mk 1 0 3) →
      Rule.read { options with now := Sample.now } ("age > " ++ longer) = .ok older →
      ∃ rule, Rule.read { options with now := Sample.now } ("age > " ++ shorter) = .ok rule ∧
        ∀ post, older.admits post = true → rule.admits post = true :=
  ⟨⟨by decide, by decide⟩, before_le_of_within ⟨by decide, by decide⟩ Sample.now⟩

end PostSieve.Rule
