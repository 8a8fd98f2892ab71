import PostSieve.Proofs.Acceptance

/-! Evaluating rules: a post matches a rule exactly if the text of the rule holds for it, read as
comparisons of the post's fields joined by "and" and "or". -/

namespace PostSieve.Rule

open Calendar (Instant Age NamesDate readDate readDate_eq_ok_iff)

/-- Whether an operator holds between two numbers. -/
def TokenKind.Compares : TokenKind → Nat → Nat → Prop
  | gt, a, b => b < a
  | ge, a, b => b ≤ a
  | lt, a, b => a < b
  | le, a, b => a ≤ b
  | eq, a, b => a = b
  | ne, a, b => a ≠ b
  | _, _, _ => False

/-- Whether a field of a post compares with a literal as the operator says. Of two posts the one
with the greater age was created earlier, and no comparison of times holds at the bound itself. -/
def Field.Holds (now : Instant) (op : TokenKind) (value : String) (post : Post) : Field → Prop
  | age => ∃ t, Age.instantBefore value now = .ok t ∧
      ((op = .gt ∨ op = .ge) ∧ post.createdAt < t ∨ (op = .lt ∨ op = .le) ∧ t < post.createdAt)
  | created => ∃ d t, NamesDate value d ∧ Instant.midnight? d = some t ∧
      ((op = .lt ∨ op = .le) ∧ post.createdAt < t ∨ (op = .gt ∨ op = .ge) ∧ t < post.createdAt)
  | text => ∃ source pattern, Quotes value source ∧ Pattern.read? source = some pattern ∧
      (op = .finds ∧ pattern.isMatch post.text = true ∨
        op = .lacks ∧ pattern.isMatch post.text = false)
  | likes => op.Compares post.likes.toNat (decimalValue value.toList)
  | retweets => op.Compares post.retweets.toNat (decimalValue value.toList)

/-- Whether a condition holds for a post. -/
def Condition.Holds (now : Instant) (post : Post) (c : Condition) : Prop :=
  ∃ field : Field, c.name = field.name ∧ field.Holds now c.op c.literal.value post

/-! ### The tests of a condition -/

theorem Comparator.holds_iff {c : Comparator} {a b : UInt64} :
    c.holds a b = true ↔ c.token.Compares a.toNat b.toNat := by
  cases c <;> simp [holds, token, TokenKind.Compares, UInt64.lt_iff_toNat_lt,
    UInt64.le_iff_toNat_le, UInt64.toNat_inj]

theorem Criteria.ofBound_admits {isBefore : Prop} [Decidable isBefore] {t : Instant}
    {post : Post} : (ofBound isBefore t).admits post = true ↔
      isBefore ∧ post.createdAt < t ∨ ¬ isBefore ∧ t < post.createdAt := by
  by_cases h : isBefore <;> simp [ofBound, admits, h]

namespace Field

variable {now : Instant} {op : TokenKind} {value : String} {tests : Criteria}

theorem not_upward_iff (h : op ∈ created.operators) :
    ¬ (op = .gt ∨ op = .ge) ↔ op = .lt ∨ op = .le := by
  simp only [operators, List.mem_cons, List.not_mem_nil, or_false] at h
  rcases h with rfl | rfl | rfl | rfl <;> simp

theorem not_downward_iff (h : op ∈ created.operators) :
    ¬ (op = .lt ∨ op = .le) ↔ op = .gt ∨ op = .ge := by
  rw [← not_upward_iff h, not_not]

theorem countBound_admits_iff {field : Field} {bound : CountBound} {count : UInt64}
    (hLiteral : TokenKind.number.Language value.toList)
    (h : criteria.countBound op value field = .ok bound) :
    bound.admits count = true ↔ op.Compares count.toNat (decimalValue value.toList) := by
  obtain ⟨hThreshold, hComparator⟩ := countBound_eq_ok_iff.mp h
  rw [← (readWord64?_eq_some_iff hLiteral).mp hThreshold,
    Comparator.ofToken?_eq_some_iff.mp hComparator]
  exact Comparator.holds_iff

theorem textTest_admits_iff (h : op ∈ text.operators) (pattern : Pattern) (post : Post) :
    (TextTest.mk pattern (op == .lacks)).admits post.text = true ↔
      op = .finds ∧ pattern.isMatch post.text = true ∨
        op = .lacks ∧ pattern.isMatch post.text = false := by
  have hFinds : (TokenKind.finds == TokenKind.lacks) = false := rfl
  simp only [operators, List.mem_cons, List.not_mem_nil, or_false] at h
  rcases h with rfl | rfl <;> simp [TextTest.admits, hFinds]

/-- A post passes the tests of a field exactly if the field holds for it. -/
theorem admits_iff_holds {field : Field} (hOp : op ∈ field.operators)
    (hLiteral : field.literal.Language value.toList)
    (h : field.criteria now op value = .ok tests) (post : Post) :
    tests.admits post = true ↔ field.Holds now op value post := by
  cases field with
  | age =>
    obtain ⟨t, ht, rfl⟩ := criteria_age.mp h
    rw [Criteria.ofBound_admits, not_upward_iff hOp, Holds]
    constructor
    · exact fun hPost => ⟨t, ht, hPost⟩
    · rintro ⟨t', ht', hPost⟩
      cases ht.symm.trans ht'
      exact hPost
  | created =>
    obtain ⟨t, hRead, rfl⟩ := criteria_created.mp h
    obtain ⟨d, hd, ht⟩ := (readDate_eq_ok_iff hLiteral).mp hRead
    rw [Criteria.ofBound_admits, not_downward_iff hOp, Holds]
    constructor
    · exact fun hPost => ⟨d, t, hd, ht, hPost⟩
    · rintro ⟨d', t', hd', ht', hPost⟩
      have hRead' := (readDate_eq_ok_iff hLiteral).mpr ⟨d', hd', ht'⟩
      cases hRead.symm.trans hRead'
      exact hPost
  | text =>
    obtain ⟨pattern, hPattern, rfl⟩ := criteria_text.mp h
    have hAdmits : Criteria.admits { matching := some ⟨pattern, op == .lacks⟩ } post =
        (TextTest.mk pattern (op == .lacks)).admits post.text := by
      simp [Criteria.admits]
    rw [hAdmits, textTest_admits_iff hOp, Holds]
    constructor
    · exact fun hPost => ⟨_, pattern, exists_quotes hLiteral, hPattern, hPost⟩
    · rintro ⟨source, pattern', hQuotes, hPattern', hPost⟩
      rw [hQuotes.unquoted_eq] at hPattern
      cases hPattern.symm.trans hPattern'
      exact hPost
  | likes =>
    obtain ⟨bound, hBound, rfl⟩ := criteria_likes.mp h
    rw [Holds, ← countBound_admits_iff hLiteral hBound]
    simp [Criteria.admits]
  | retweets =>
    obtain ⟨bound, hBound, rfl⟩ := criteria_retweets.mp h
    rw [Holds, ← countBound_admits_iff hLiteral hBound]
    simp [Criteria.admits]

end Field

theorem Condition.admits_iff_holds {now : Instant} {c : Condition} {tree : Tree}
    (hLexical : c.IsLexical) (h : c.Means now tree) (post : Post) :
    tree.admits post = true ↔ c.Holds now post := by
  obtain ⟨field, tests, hField, hOp, hLiteral, hTests, rfl⟩ := h
  have hName := Field.ofName?_eq_some_iff.mp hField
  have hLanguage : field.literal.Language c.literal.value.toList := hLiteral ▸ hLexical.2
  rw [Tree.admits, Field.admits_iff_holds hOp hLanguage hTests, Condition.Holds]
  constructor
  · exact fun hHolds => ⟨field, hName, hHolds⟩
  · rintro ⟨field', hName', hHolds⟩
    obtain rfl := Field.name_injective (hName.symm.trans hName')
    exact hHolds

/-! ### Phrases and rules -/

namespace Phrase

variable {level : Level} {now : Instant}

/-- Whether a phrase holds for a post: `&&` and `||` stand for "and" and "or", each taking all the
rest of its chain on its right. -/
def Holds (now : Instant) (post : Post) : {level : Level} → Phrase level → Prop
  | _, condition c => c.Holds now post
  | _, group inner => inner.Holds now post
  | _, single operand => operand.Holds now post
  | _, joined first .and rest => first.Holds now post ∧ rest.Holds now post
  | _, joined first .or rest => first.Holds now post ∨ rest.Holds now post

/-- The tree of a phrase admits the posts for which the phrase holds. -/
theorem admits_iff_holds {p : Phrase level} {tree : Tree}
    (hLexical : ∀ c ∈ p.conditions, c.IsLexical) (h : p.Means now tree) (post : Post) :
    tree.admits post = true ↔ p.Holds now post := by
  induction p generalizing tree with
  | condition c => exact c.admits_iff_holds (hLexical c (List.mem_singleton_self c)) h post
  | group inner ih => exact ih hLexical h
  | single operand ih => exact ih hLexical h
  | joined first join rest ihFirst ihRest =>
    obtain ⟨left, right, hLeft, hRight, rfl⟩ := h
    rw [conditions, List.forall_mem_append] at hLexical
    have ihFirst := ihFirst hLexical.1 hLeft
    have ihRest := ihRest hLexical.2 hRight
    cases join with
    | and => rw [Tree.admits, Bool.and_eq_true, ihFirst, ihRest, Holds]
    | or => rw [Tree.admits, Bool.or_eq_true, ihFirst, ihRest, Holds]

end Phrase

/-- A post matches a rule exactly if the only phrase of the rule's text holds for it. -/
theorem read_admits_iff_holds {options : Options} {text : String} {rule : Rule}
    (h : Rule.read options text = .ok rule) :
    ∃ p : Phrase .chain, wordsOf text = .ok p.words ∧
      (∀ q : Phrase .chain, wordsOf text = .ok q.words → q = p) ∧
      ∀ post, rule.admits post = true ↔ p.Holds options.now post := by
  obtain ⟨p, hp⟩ := read_eq_ok_iff.mp h
  refine ⟨p, hp.words_eq, fun q hq => ?_, fun post => ?_⟩
  · exact Phrase.words_injective (Except.ok.inj (hq.symm.trans hp.words_eq))
  · exact Phrase.admits_iff_holds (isLexical_conditions hp.words_eq) hp.means post

theorem read_admits_iff_holds_sample : ∃ rule,
    Rule.read { now := .epoch } "likes > 3 && (retweets == 5 || likes < 9)" = .ok rule ∧
      ∃ p : Phrase .chain,
        wordsOf "likes > 3 && (retweets == 5 || likes < 9)" = .ok p.words ∧
        (∀ q : Phrase .chain,
          wordsOf "likes > 3 && (retweets == 5 || likes < 9)" = .ok q.words → q = p) ∧
        ∀ post, rule.admits post = true ↔ p.Holds .epoch post := by
  obtain ⟨rule, hRead⟩ := exists_read_sample
  exact ⟨rule, hRead, read_admits_iff_holds hRead⟩

end PostSieve.Rule
