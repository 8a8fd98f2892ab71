import PostSieve.Proofs.AgeTexts
import PostSieve.Proofs.CountingBack
import PostSieve.Proofs.SingleConditions

/-! Conditions on dates follow the calendar: they compare the day on which a post was created with
the day that is named, save that a post from the midnight of that day is on neither side. -/

namespace PostSieve.Calendar

/-! ### Days and instants in order -/

/-- Whether a day comes before another one, by year, then by month, then by day. -/
def Date.Precedes (d e : Date) : Prop :=
  d.year < e.year ∨ d.year = e.year ∧ (d.month < e.month ∨ d.month = e.month ∧ d.day < e.day)

instance (d e : Date) : Decidable (d.Precedes e) :=
  inferInstanceAs (Decidable (_ ∨ _))

/-- Days are numbered in the order of the calendar. -/
theorem Date.number_lt_iff {d e : Date} : d.number < e.number ↔ d.Precedes e := by
  have hMonths : d.monthIndex < e.monthIndex ↔
      d.year < e.year ∨ d.year = e.year ∧ d.month < e.month := by
    have := d.month_pos
    have := d.month_le
    have := e.month_pos
    have := e.month_le
    simp only [monthIndex]
    omega
  constructor
  · intro h
    rcases Int.lt_or_eq_of_le (monthIndex_le_of_number_le (Int.le_of_lt h)) with hMonth | hMonth
    · rcases hMonths.mp hMonth with hYear | ⟨hYear, hMonth⟩
      · exact .inl hYear
      · exact .inr ⟨hYear, .inl hMonth⟩
    · have hDay := number_add_day hMonth
      obtain ⟨hYear, hMonth⟩ := monthIndex_eq_iff.mp hMonth
      exact .inr ⟨hYear, .inr ⟨hMonth, by omega⟩⟩
  · rintro (hYear | ⟨hYear, hMonth | ⟨hMonth, hDay⟩⟩)
    · exact number_lt_of_monthIndex_lt (hMonths.mpr (.inl hYear))
    · exact number_lt_of_monthIndex_lt (hMonths.mpr (.inr ⟨hYear, hMonth⟩))
    · have hAdd := number_add_day (monthIndex_eq_iff.mpr ⟨hYear, hMonth⟩)
      omega

namespace Instant

variable {s t : Instant} {d : Date}

/-- Whether an instant is the one that its day begins with. -/
def IsMidnight (t : Instant) : Prop := t.secondOfDay = 0 ∧ t.nanos = 0

instance (t : Instant) : Decidable t.IsMidnight :=
  inferInstanceAs (Decidable (_ ∧ _))

theorem midnight?_eq_some_iff : midnight? d = some t ↔ t.date = d ∧ t.IsMidnight := by
  have hTime := t.secondOfDay_lt
  have hSeconds := t.seconds_eq
  rw [midnight?, ofParts?_eq_some_iff]
  constructor
  · rintro ⟨hSecond, hNanos⟩
    exact ⟨Date.number_injective (by omega), by omega, hNanos⟩
  · rintro ⟨rfl, hSecond, hNanos⟩
    exact ⟨by omega, hNanos⟩

theorem date_eq_iff : s.date = t.date ↔ s.date.number = t.date.number :=
  ⟨congrArg Date.number, Date.number_injective⟩

theorem IsMidnight.eq_iff (h : t.IsMidnight) : s = t ↔ s.date = t.date ∧ s.IsMidnight := by
  rw [← midnight?_eq_some_iff, midnight?_eq_some_iff.mpr ⟨rfl, h⟩, Option.some_inj, eq_comm]

theorem IsMidnight.lt_iff (h : t.IsMidnight) : s < t ↔ s.date.Precedes t.date := by
  have hTime := s.secondOfDay_lt
  have hSeconds := s.seconds_eq
  have hMidnight := t.seconds_eq
  obtain ⟨hSecond, hNanos⟩ := h
  rw [← Date.number_lt_iff, lt_def]
  omega

theorem IsMidnight.gt_iff (h : t.IsMidnight) :
    t < s ↔ t.date.Precedes s.date ∨ s.date = t.date ∧ ¬ s.IsMidnight := by
  have hTime := s.secondOfDay_lt
  have hSeconds := s.seconds_eq
  have hMidnight := t.seconds_eq
  obtain ⟨hSecond, hNanos⟩ := h
  rw [← Date.number_lt_iff, lt_def, date_eq_iff, IsMidnight]
  omega

/-- Of two instants, the first is either before the second, or behind it, or the same. -/
theorem count_order (s t : Instant) :
    [decide (s < t), decide (t < s), decide (s = t)].count true = 1 := by
  rcases Std.lt_trichotomy s t with hLt | rfl | hGt
  · simp [hLt, Std.not_gt_of_lt hLt, Std.ne_of_lt hLt]
  · simp [Std.lt_irrefl]
  · simp [hGt, Std.not_gt_of_lt hGt, (Std.ne_of_lt hGt).symm]

end Instant

/-- A literal that looks like a date is read exactly if the calendar has the day that it names. -/
theorem exists_readDate_iff {literal : String}
    (h : Rule.TokenKind.date.Language literal.toList) :
    (∃ t, readDate literal = .ok t) ↔ ∃ d, NamesDate literal d := by
  simp only [readDate_eq_ok_iff h]
  constructor
  · rintro ⟨_, d, hNames, -⟩
    exact ⟨d, hNames⟩
  · rintro ⟨d, hNames⟩
    obtain ⟨t, ht⟩ := hNames.exists_midnight
    exact ⟨t, d, hNames, ht⟩

end PostSieve.Calendar

namespace PostSieve.Rule

open Calendar (Date Instant NamesDate readDate readDate_eq_ok_iff exists_readDate_iff)

variable {literal : String}

/-- Conditions on the day of creation follow the calendar. A date token is read exactly if the
calendar has the day that it names, as the midnight of that day. The posts that are created before
it are those of an earlier day; the posts that are created after it are those of a later day and
those of the day itself but for its midnight, so that each post is on one side or from that
midnight. Whether the operator allows for equality makes no difference. -/
theorem created_follows_calendar (h : TokenKind.date.IsWhole literal) :
    ((∃ t, readDate literal = .ok t) ↔ ∃ d, NamesDate literal d) ∧
    ∀ d, NamesDate literal d →
      (∃ t, readDate literal = .ok t ∧ t.date = d ∧ t.IsMidnight) ∧
      ∀ options : Options, 0 < options.maxConditions →
        (∀ op ∈ [TokenKind.lt, .le], ∃ rule,
          Rule.read options (Field.created.conditionText op literal) = .ok rule ∧
          ∀ post, rule.admits post = true ↔ post.createdAt.date.Precedes d) ∧
        (∀ op ∈ [TokenKind.gt, .ge], ∃ rule,
          Rule.read options (Field.created.conditionText op literal) = .ok rule ∧
          ∀ post, rule.admits post = true ↔ d.Precedes post.createdAt.date ∨
            post.createdAt.date = d ∧ ¬ post.createdAt.IsMidnight) ∧
        ∃ before after,
          Rule.read options (Field.created.conditionText .lt literal) = .ok before ∧
          Rule.read options (Field.created.conditionText .gt literal) = .ok after ∧
          ∀ post, [before.admits post, after.admits post,
            decide (post.createdAt.date = d ∧ post.createdAt.IsMidnight)].count true = 1 := by
  have hLiteral := TokenKind.isWhole_iff.mp h
  refine ⟨exists_readDate_iff hLiteral, fun d hNames => ?_⟩
  obtain ⟨t, ht⟩ := hNames.exists_midnight
  have hRead : readDate literal = .ok t := (readDate_eq_ok_iff hLiteral).mpr ⟨d, hNames, ht⟩
  obtain ⟨rfl, hMidnight⟩ := Instant.midnight?_eq_some_iff.mp ht
  refine ⟨⟨t, hRead, rfl, hMidnight⟩, fun options hCount =>
    ⟨fun op hOp => ?before, fun op hOp => ?after, ?both⟩⟩
  case before =>
    simp only [← hMidnight.lt_iff]
    exact exists_read_createdBefore hOp hLiteral hCount hRead
  case after =>
    simp only [← hMidnight.gt_iff]
    exact exists_read_createdAfter hOp hLiteral hCount hRead
  case both =>
    have hLt : TokenKind.lt ∈ [TokenKind.lt, .le] := List.mem_cons_self
    have hGt : TokenKind.gt ∈ [TokenKind.gt, .ge] := List.mem_cons_self
    obtain ⟨before, hBefore, hAdmitsBefore⟩ :=
      exists_read_createdBefore hLt hLiteral hCount hRead
    obtain ⟨after, hAfter, hAdmitsAfter⟩ := exists_read_createdAfter hGt hLiteral hCount hRead
    refine ⟨before, after, hBefore, hAfter, fun post => ?_⟩
    have hEarlier : before.admits post = decide (post.createdAt < t) :=
      Bool.eq_iff_iff.mpr ((hAdmitsBefore post).trans decide_eq_true_iff.symm)
    have hLater : after.admits post = decide (t < post.createdAt) :=
      Bool.eq_iff_iff.mpr ((hAdmitsAfter post).trans decide_eq_true_iff.symm)
    rw [hEarlier, hLater, decide_eq_decide.mpr hMidnight.eq_iff.symm]
    exact Instant.count_order post.createdAt t

/-- The leap day of 2020, with the name of its month in small letters. -/
theorem created_follows_calendar_leapDay : TokenKind.date.IsWhole "29-feb-2020" ∧
    ∃ d rule, NamesDate "29-feb-2020" d ∧ d.month = 2 ∧
      Sample.rule "created >= 29-feb-2020" = .ok rule ∧
      ∀ post, rule.admits post = true ↔ d.Precedes post.createdAt.date ∨
        post.createdAt.date = d ∧ ¬ post.createdAt.IsMidnight := by
  have hDigits : ['2', '9', '2', '0', '2', '0'].all Char.isDigit = true := by decide
  have hLetters : ['f', 'e', 'b'].all Char.isAlpha = true := by decide
  have hWhole : TokenKind.date.IsWhole "29-feb-2020" := TokenKind.isWhole_iff.mpr <|
    TokenKind.language_date.mpr ⟨'2', '9', 'f', 'e', 'b', '2', '0', '2', '0', rfl,
      List.all_eq_true.mp hDigits, List.all_eq_true.mp hLetters⟩
  have hNames : NamesDate "29-feb-2020"
      ⟨2020, 2, 29, by decide, by decide, by decide, by decide⟩ :=
    ⟨'2', '9', 'f', 'e', 'b', '2', '0', '2', '0', "Feb", rfl, List.all_eq_true.mp hDigits,
      rfl, rfl, rfl, rfl⟩
  obtain ⟨-, hAdmits, -⟩ :=
    ((created_follows_calendar hWhole).2 _ hNames).2 { now := Sample.now } (by decide)
  obtain ⟨rule, hRead, hPosts⟩ := hAdmits .ge (by decide)
  exact ⟨hWhole, _, rule, hNames, rfl, hRead, hPosts⟩

example : (Sample.now.date.year, Sample.now.date.month, Sample.now.date.day) = (2021, 6, 15) := by
  decide

end PostSieve.Rule
