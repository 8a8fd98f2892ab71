import PostSieve.Proofs.GrammarErrors
import PostSieve.Proofs.Leaves
import PostSieve.Proofs.OutlineTrees

/-! The conditions of a rule: each makes a single test, which its field and its operator tell, so
none of them passes every post for want of a test. -/

namespace PostSieve.Rule

open Calendar (Instant)

/-! ### Single tests -/

/-- The number of tests that criteria make. -/
def Criteria.testCount (c : Criteria) : Nat :=
  [c.before.isSome, c.after.isSome, c.matching.isSome, c.containing.isSome, c.likes.isSome,
    c.retweets.isSome].count true

theorem Criteria.isEmpty_iff {c : Criteria} : c.isEmpty = true ↔ c.testCount = 0 := by
  simp [isEmpty, testCount, List.count_eq_zero, and_assoc]

namespace Leaf

/-- Whether a condition makes the one test that its field and its operator call for. What is older
than an age was created before an instant. -/
inductive IsSingle : Leaf → Prop
  | older {op : TokenKind} (t : Instant) : op ∈ [TokenKind.gt, .ge] →
      IsSingle ⟨.age, op, { before := some t }⟩
  | younger {op : TokenKind} (t : Instant) : op ∈ [TokenKind.lt, .le] →
      IsSingle ⟨.age, op, { after := some t }⟩
  | earlier {op : TokenKind} (t : Instant) : op ∈ [TokenKind.lt, .le] →
      IsSingle ⟨.created, op, { before := some t }⟩
  | later {op : TokenKind} (t : Instant) : op ∈ [TokenKind.gt, .ge] →
      IsSingle ⟨.created, op, { after := some t }⟩
  | finds (pattern : Pattern) : IsSingle ⟨.text, .finds, { matching := some ⟨pattern, false⟩ }⟩
  | lacks (pattern : Pattern) : IsSingle ⟨.text, .lacks, { matching := some ⟨pattern, true⟩ }⟩
  | likes (bound : CountBound) :
      IsSingle ⟨.likes, bound.comparator.token, { likes := some bound }⟩
  | retweets (bound : CountBound) :
      IsSingle ⟨.retweets, bound.comparator.token, { retweets := some bound }⟩

variable {leaf : Leaf}

theorem IsSingle.testCount_eq (h : leaf.IsSingle) : leaf.tests.testCount = 1 := by
  cases h <;> rfl

theorem IsSingle.containing_eq (h : leaf.IsSingle) : leaf.tests.containing = none := by
  cases h <;> rfl

theorem IsSingle.not_isEmpty (h : leaf.IsSingle) : leaf.tests.isEmpty = false := by
  rw [Bool.eq_false_iff, ne_eq, Criteria.isEmpty_iff, h.testCount_eq]
  exact Nat.one_ne_zero

end Leaf

/-! ### Conditions -/

namespace Field

variable {field field' : Field} {now : Instant} {op : TokenKind} {value : String}
  {tests : Criteria}

theorem mem_orderings (h : op ∈ [TokenKind.gt, .ge, .lt, .le]) :
    op ∈ [TokenKind.gt, .ge] ∧ ¬ (op = .lt ∨ op = .le) ∨
      op ∈ [TokenKind.lt, .le] ∧ ¬ (op = .gt ∨ op = .ge) := by
  simp only [List.mem_cons, List.not_mem_nil, or_false] at h
  rcases h with rfl | rfl | rfl | rfl <;> decide

theorem Makes.isSingle (h : field.Makes op tests) (hOp : op ∈ field.operators) :
    Leaf.IsSingle ⟨field, op, tests⟩ := by
  cases field with
  | age =>
    obtain ⟨t, rfl⟩ := h
    rcases mem_orderings hOp with ⟨hGreater, -⟩ | ⟨hLess, hNot⟩
    · rw [Criteria.ofBound, if_pos (List.mem_pair.mp hGreater)]
      exact .older t hGreater
    · rw [Criteria.ofBound, if_neg hNot]
      exact .younger t hLess
  | created =>
    obtain ⟨t, rfl⟩ := h
    rcases mem_orderings hOp with ⟨hGreater, hNot⟩ | ⟨hLess, -⟩
    · rw [Criteria.ofBound, if_neg hNot]
      exact .later t hGreater
    · rw [Criteria.ofBound, if_pos (List.mem_pair.mp hLess)]
      exact .earlier t hLess
  | text =>
    obtain ⟨pattern, rfl⟩ := h
    rcases List.mem_pair.mp hOp with rfl | rfl
    · exact .finds pattern
    · exact .lacks pattern
  | likes =>
    obtain ⟨bound, rfl, rfl⟩ := h
    exact .likes bound
  | retweets =>
    obtain ⟨bound, rfl, rfl⟩ := h
    exact .retweets bound

/-- A count is compared by each of the operators that conditions on counts may use. -/
theorem countBound_ne_operatorNotOf (hOp : op ∈ likes.operators) :
    criteria.countBound op value field ≠ .error (.operatorNotOf field') := by
  obtain ⟨comparator, hComparator⟩ := Comparator.exists_ofToken? hOp
  unfold criteria.countBound
  rw [hComparator]
  cases readWord64? value.toList <;> nofun

/-- An operator that a field may use is never what its tests fail for. -/
theorem criteria_ne_operatorNotOf (hOp : op ∈ field.operators) :
    field.criteria now op value ≠ .error (.operatorNotOf field') := by
  intro h
  cases field with
  | age =>
    rw [criteria] at h
    cases hInstant : Calendar.Age.instantBefore value now <;> rw [hInstant] at h <;> cases h
  | created =>
    rw [criteria] at h
    cases hDate : Calendar.readDate value <;> rw [hDate] at h <;> cases h
  | text =>
    rw [criteria] at h
    cases hPattern : Pattern.read? (unquoted value) <;> rw [hPattern] at h <;> cases h
  | likes =>
    rcases bind_eq_error_iff.mp h with hBound | ⟨_, -, ⟨⟩⟩
    exact countBound_ne_operatorNotOf hOp hBound
  | retweets =>
    rcases bind_eq_error_iff.mp h with hBound | ⟨_, -, ⟨⟩⟩
    exact countBound_ne_operatorNotOf hOp hBound

end Field

/-- A condition whose operator is at fault has one that its field may not use. -/
theorem not_mem_operators_of_conditionOf {now : Instant} {name op literal token : Token}
    {field : Field} (h : conditionOf now name op literal =
      .error (.invalidCondition (.operatorNotOf field) token)) :
    token = op ∧ op.kind ∉ field.operators := by
  unfold conditionOf at h
  split at h
  · cases h
  split at h
  case isTrue hOp =>
    cases h
    exact ⟨rfl, hOp⟩
  case isFalse hOp =>
    split at h
    · cases h
    split at h
    · cases h
    · rename_i hCriteria
      cases h
      exact absurd hCriteria (Field.criteria_ne_operatorNotOf (not_not.mp hOp))

/-! ### Rules -/

theorem Phrase.Means.isSingle {level : Level} {p : Phrase level} {now : Instant} {tree : Tree}
    (h : p.Means now tree) :
    ∀ leaf ∈ tree.leaves, leaf.op ∈ leaf.field.operators ∧ leaf.IsSingle := by
  induction p generalizing tree with
  | condition c =>
    obtain ⟨field, tests, -, hOp, -, hTests, rfl⟩ := h
    exact List.forall_mem_singleton.mpr ⟨hOp, (Field.makes_of_criteria hTests).isSingle hOp⟩
  | group inner ih => exact ih h
  | single operand ih => exact ih h
  | joined first join rest ihFirst ihRest =>
    obtain ⟨left, right, hLeft, hRight, rfl⟩ := h
    exact List.forall_mem_append.mpr ⟨ihFirst hLeft, ihRest hRight⟩

/-- Every condition of a rule has an operator that its field may use, and makes exactly the one test
that the two call for, which is never for a part of the text. Only an operator that the field may
not use is reported as such: an operator that it may use has a comparison. -/
theorem read_leaves (options : Options) (text : String) :
    (∀ rule, Rule.read options text = .ok rule → ∀ leaf ∈ rule.tree.leaves,
      leaf.op ∈ leaf.field.operators ∧ leaf.IsSingle ∧ leaf.tests.testCount = 1 ∧
        leaf.tests.containing = none ∧ leaf.tests.isEmpty = false) ∧
    (∀ field token,
      Rule.read options text = .error (.invalidCondition (.operatorNotOf field) token) →
        token.kind.isOperator = true ∧ token.kind ∉ field.operators) ∧
    ∀ (field field' : Field) (op : TokenKind) (value : String), op ∈ field.operators →
      field.criteria options.now op value ≠ .error (.operatorNotOf field') := by
  refine ⟨fun rule hRead leaf hLeaf => ?_, fun field token hRead => ?_,
    fun field field' op value => Field.criteria_ne_operatorNotOf⟩
  · obtain ⟨p, hp⟩ := read_eq_ok_iff.mp hRead
    obtain ⟨hOp, hSingle⟩ := hp.means.isSingle leaf hLeaf
    exact ⟨hOp, hSingle, hSingle.testCount_eq, hSingle.containing_eq, hSingle.not_isEmpty⟩
  · obtain ⟨-, k, place, -, hFault⟩ := exists_faultAt hRead nofun
    cases hFault with
    | invalid _ _ hOperator _ _ hCondition =>
      obtain ⟨rfl, hOp⟩ := not_mem_operators_of_conditionOf hCondition
      exact ⟨hOperator, hOp⟩

theorem read_leaves_samples :
    (∃ rule, Rule.read { now := .epoch } "likes > 3 && (retweets == 5 || likes < 9)" = .ok rule ∧
      ∀ leaf ∈ rule.tree.leaves, leaf.op ∈ leaf.field.operators ∧ leaf.IsSingle ∧
        leaf.tests.testCount = 1 ∧ leaf.tests.containing = none ∧ leaf.tests.isEmpty = false) ∧
    (Rule.read { now := .epoch } "age == 1d" =
        .error (.invalidCondition (.operatorNotOf .age) ⟨.eq, "==", 4, 2⟩) ∧
      TokenKind.eq.isOperator = true ∧ TokenKind.eq ∉ Field.age.operators) ∧
    TokenKind.ne ∈ Field.likes.operators ∧
      Field.likes.criteria .epoch .ne "7" ≠ .error (.operatorNotOf .likes) := by
  obtain ⟨rule, hRead⟩ := exists_read_sample
  have hStream : TokenStream.ofText "age == 1d" = ⟨[⟨.name, "age", 0, 3⟩, ⟨.eq, "==", 4, 2⟩,
      ⟨.age, "1d", 7, 2⟩], .endOfText 9⟩ := by decide +kernel
  have hFault : Rule.read { now := .epoch } "age == 1d" =
      .error (.invalidCondition (.operatorNotOf .age) ⟨.eq, "==", 4, 2⟩) := by
    refine read_eq_error (by decide) (by rw [hStream]; rfl) ?_
    rw [hStream, readChain, readOperand]
    rfl
  have hMem : TokenKind.ne ∈ Field.likes.operators := by decide
  refine ⟨⟨rule, hRead, (read_leaves _ _).1 rule hRead⟩, ⟨hFault, ?_⟩, hMem, ?_⟩
  · exact (read_leaves _ _).2.1 _ _ hFault
  · exact (read_leaves { now := .epoch } "").2.2 _ _ _ _ hMem

end PostSieve.Rule
