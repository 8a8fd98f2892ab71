import PostSieve.Proofs.Acceptance
import PostSieve.Proofs.Leaves

/-! Duals of rules: with each join and each operator replaced by its complement a rule is read
alike, and away from the bounds of its times it matches the other posts. -/

namespace PostSieve.Rule

open Calendar (Instant Age NamesDate readDate readDate_eq_ok_iff)

/-! ### Duals of words and phrases -/

/-- The complement of an operator, and the other join of a join. -/
def TokenKind.dual : TokenKind → TokenKind
  | and => or
  | or => and
  | gt => le
  | le => gt
  | ge => lt
  | lt => ge
  | eq => ne
  | ne => eq
  | finds => lacks
  | lacks => finds
  | kind => kind

/-- A word with its operator or join replaced; parentheses, names and literals stay. -/
def Word.dual (word : Word) : Word :=
  if word.kind.isOperator ∨ word.kind.isLogical then .symbol word.kind.dual else word

/-- A text with its operators and joins replaced, and all else as it was. -/
def dualText (text : String) : String := String.ofList (respell Word.dual 0 text.toList)

theorem TokenKind.isOperator_dual {kind : TokenKind} (h : kind.isOperator = true) :
    kind.dual.isOperator = true := by
  cases kind <;> first | rfl | cases h

theorem Field.dual_mem_operators {field : Field} {op : TokenKind} (h : op ∈ field.operators) :
    op.dual ∈ field.operators := by
  cases field <;> cases op <;> first | decide | exact absurd h (by decide)

/-- The condition with the complement of the operator. -/
def Condition.dual (c : Condition) : Condition :=
  { c with op := c.op.dual, isOperator := TokenKind.isOperator_dual c.isOperator }

def Join.dual : Join → Join
  | and => or
  | or => and

theorem Condition.words_dual (c : Condition) : c.dual.words = c.words.map Word.dual := by
  obtain ⟨name, op, literal, hOp, hLiteral⟩ := c
  have hName : Word.dual ⟨.name, name⟩ = ⟨.name, name⟩ := rfl
  have hSymbol : Word.dual (.symbol op) = .symbol op.dual := if_pos (Or.inl hOp)
  have hValue : Word.dual literal = literal := by
    refine if_neg ?_
    cases hKind : literal.kind <;> simp [hKind, TokenKind.isLiteral] at hLiteral ⊢ <;> decide
  rw [dual, words, words, List.map_cons, List.map_cons, List.map_cons, List.map_nil, hName,
    hSymbol, hValue]

namespace Phrase

/-- The phrase with every operator and every join replaced. -/
def dual : {level : Level} → Phrase level → Phrase level
  | _, condition c => condition c.dual
  | _, group inner => group inner.dual
  | _, single operand => single operand.dual
  | _, joined first join rest => joined first.dual join.dual rest.dual

variable {level : Level} (p : Phrase level)

theorem words_dual : p.dual.words = p.words.map Word.dual := by
  induction p with
  | condition c => exact c.words_dual
  | group inner ih =>
    rw [dual, words, words, ih, List.map_cons, List.map_append]
    rfl
  | single operand ih => exact ih
  | joined first join rest ihFirst ihRest =>
    have hJoin : Word.dual (.symbol join.token) = .symbol join.dual.token := by cases join <;> rfl
    rw [dual, words, words, ihFirst, ihRest, List.map_append, List.map_cons, hJoin]

theorem conditions_dual : p.dual.conditions = p.conditions.map Condition.dual := by
  induction p with
  | condition c => rfl
  | group inner ih => exact ih
  | single operand ih => exact ih
  | joined first join rest ihFirst ihRest =>
    rw [dual, conditions, conditions, ihFirst, ihRest, List.map_append]

theorem depth_dual : p.dual.depth = p.depth := by
  induction p with
  | condition c => rfl
  | group inner ih => rw [dual, depth, depth, ih]
  | single operand ih => exact ih
  | joined first join rest ihFirst ihRest => rw [dual, depth, depth, ihFirst, ihRest]

theorem nodeCount_dual : p.dual.nodeCount = p.nodeCount := by
  induction p with
  | condition c => rfl
  | group inner ih => rw [dual, nodeCount, nodeCount, ih]
  | single operand ih => exact ih
  | joined first join rest ihFirst ihRest => rw [dual, nodeCount, nodeCount, ihFirst, ihRest]

end Phrase

theorem Condition.Valid.dual {now : Instant} {c : Condition} (h : c.Valid now) :
    c.dual.Valid now := by
  obtain ⟨field, hName, hOp, hLiteral, hAccepts⟩ := h
  exact ⟨field, hName, field.dual_mem_operators hOp, hLiteral, hAccepts⟩

/-! ### The texts of duals -/

variable {options : Options} {text : String} {p : Phrase .chain}

/-- The words of the dual of a text are those of the dual of its phrase. -/
theorem wordsOf_dualText (h : wordsOf text = .ok p.words) :
    wordsOf (dualText text) = .ok p.dual.words := by
  have hSpelled := spelled_respell_of_wordsOf Word.dual h
  rw [← p.words_dual] at hSpelled
  apply Phrase.wordsOf_of_spelled
  · rwa [dualText, String.toList_ofList]
  · rw [Phrase.isLexical_words_iff, p.conditions_dual, List.forall_mem_map]
    exact isLexical_conditions h

/-- A rule's dual is read from every text that has its words. -/
theorem exists_read_dual {rule : Rule} (h : p.Yields options text rule) {dualized : String}
    (hWords : wordsOf dualized = .ok p.dual.words) :
    ∃ dual, p.dual.Yields options dualized dual := by
  have hValid := (exists_means_iff_valid h.words_eq).mp ⟨rule.tree, h.means⟩
  obtain ⟨dual, hRead⟩ : ∃ dual, Rule.read options dualized = .ok dual := by
    apply exists_read_of_words hWords
    · rw [p.conditions_dual, List.forall_mem_map]
      exact fun c hc => (hValid c hc).dual
    · exact p.depth_dual ▸ h.depth_le
    · rw [p.conditions_dual, List.length_map]
      exact h.conditions_le
  obtain ⟨q, hq⟩ := read_eq_ok_iff.mp hRead
  have hSame : q = p.dual :=
    Phrase.words_injective (Except.ok.inj (hq.words_eq.symm.trans hWords))
  exact ⟨dual, hSame ▸ hq⟩

/-! ### The trees of duals -/

namespace Tree

/-- Whether two trees have the same shape, with conditions on the same fields at the same places. -/
def SameShape : Tree → Tree → Prop
  | condition field _ _, condition field' _ _ => field = field'
  | join _ left right, join _ left' right' => left.SameShape left' ∧ right.SameShape right'
  | _, _ => False

theorem SameShape.leaves_eq {tree tree' : Tree} (h : tree.SameShape tree') :
    tree'.leaves.map Leaf.field = tree.leaves.map Leaf.field := by
  induction tree generalizing tree' with
  | condition field op criteria =>
    cases tree' with
    | condition field' op' criteria' =>
      obtain rfl : field = field' := h
      rfl
    | join op' left' right' => exact h.elim
  | join op left right ihLeft ihRight =>
    cases tree' with
    | condition field' op' criteria' => exact h.elim
    | join op' left' right' =>
      rw [leaves, leaves, List.map_append, List.map_append, ihLeft h.1, ihRight h.2]

/-- Trees of the same shape test the same fields in the same order. -/
theorem SameShape.fields_eq {tree tree' : Tree} (h : tree.SameShape tree') :
    tree'.fields = tree.fields := by
  rw [fields_eq_eraseDups, fields_eq_eraseDups, h.leaves_eq]

/-- The instants that a tree compares times of posts with. -/
def instants : Tree → List Instant
  | condition _ _ criteria => criteria.before.toList ++ criteria.after.toList
  | join _ left right => left.instants ++ right.instants

end Tree

/-! ### Complementary tests -/

/-- Away from its instant the tests before it and after it are complementary. -/
theorem ofBound_admits_compl {isBefore isBefore' : Prop} [Decidable isBefore]
    [Decidable isBefore'] (hCompl : isBefore' ↔ ¬ isBefore) {t : Instant} {post : Post}
    (h : post.createdAt ≠ t) :
    (Criteria.ofBound isBefore' t).admits post = !(Criteria.ofBound isBefore t).admits post := by
  have hDecide : decide (t < post.createdAt) = !decide (post.createdAt < t) := by
    rcases Std.lt_trichotomy post.createdAt t with hLt | hEq | hGt
    · simp [hLt, Std.not_gt_of_lt hLt]
    · exact absurd hEq h
    · simp [hGt, Std.not_gt_of_lt hGt]
  by_cases hBefore : isBefore
  · simp [Criteria.ofBound, Criteria.admits, hBefore, hCompl, hDecide]
  · simp [Criteria.ofBound, Criteria.admits, hBefore, hCompl, hDecide]

theorem ofBound_instants {isBefore : Prop} [Decidable isBefore] {t : Instant} {field : Field}
    {op : TokenKind} : (Tree.condition field op (Criteria.ofBound isBefore t)).instants = [t] := by
  by_cases h : isBefore <;> simp [Tree.instants, Criteria.ofBound, h]

theorem Comparator.holds_dual {c c' : Comparator} (h : c'.token = c.token.dual) (a b : UInt64) :
    c'.holds a b = !c.holds a b := by
  cases c <;> cases c' <;> first | cases h; done | simp [holds, bne, ← UInt64.not_lt]

namespace Field

variable {now : Instant} {op : TokenKind} {value : String} {tests tests' : Criteria}

theorem not_upward_dual {field : Field} (hField : field = age ∨ field = created)
    (h : op ∈ field.operators) : (op.dual = .gt ∨ op.dual = .ge ↔ ¬ (op = .gt ∨ op = .ge)) ∧
      (op.dual = .lt ∨ op.dual = .le ↔ ¬ (op = .lt ∨ op = .le)) := by
  rcases hField with rfl | rfl <;> cases op <;>
    first | exact absurd h (by decide) | simp [TokenKind.dual]

theorem countBound_admits_dual {field : Field} {bound bound' : CountBound}
    (h : criteria.countBound op value field = .ok bound)
    (h' : criteria.countBound op.dual value field = .ok bound') (count : UInt64) :
    bound'.admits count = !bound.admits count := by
  obtain ⟨hThreshold, hComparator⟩ := countBound_eq_ok_iff.mp h
  obtain ⟨hThreshold', hComparator'⟩ := countBound_eq_ok_iff.mp h'
  have hSame : bound'.threshold = bound.threshold :=
    Option.some.inj (hThreshold'.symm.trans hThreshold)
  rw [CountBound.admits, CountBound.admits, hSame]
  apply Comparator.holds_dual
  rw [← Comparator.ofToken?_eq_some_iff.mp hComparator,
    ← Comparator.ofToken?_eq_some_iff.mp hComparator']

/-- Away from the instants of a condition, the tests with the operator's complement are passed
exactly if those with the operator are not. -/
theorem admits_dual {field : Field} (hOp : op ∈ field.operators)
    (h : field.criteria now op value = .ok tests)
    (h' : field.criteria now op.dual value = .ok tests') {post : Post}
    (hInstants : ∀ t ∈ (Tree.condition field op tests).instants, post.createdAt ≠ t) :
    tests'.admits post = !tests.admits post := by
  cases field with
  | age =>
    obtain ⟨t, ht, rfl⟩ := criteria_age.mp h
    obtain ⟨t', ht', rfl⟩ := criteria_age.mp h'
    cases ht.symm.trans ht'
    rw [ofBound_instants, List.forall_mem_singleton] at hInstants
    exact ofBound_admits_compl (not_upward_dual (Or.inl rfl) hOp).1 hInstants
  | created =>
    obtain ⟨t, ht, rfl⟩ := criteria_created.mp h
    obtain ⟨t', ht', rfl⟩ := criteria_created.mp h'
    cases ht.symm.trans ht'
    rw [ofBound_instants, List.forall_mem_singleton] at hInstants
    exact ofBound_admits_compl (not_upward_dual (Or.inr rfl) hOp).2 hInstants
  | text =>
    obtain ⟨pattern, hPattern, rfl⟩ := criteria_text.mp h
    obtain ⟨pattern', hPattern', rfl⟩ := criteria_text.mp h'
    cases hPattern.symm.trans hPattern'
    have hDual : (op.dual == .lacks) = !(op == .lacks) := by
      cases op <;> first | exact absurd hOp (by decide) | rfl
    rw [hDual]
    simp [Criteria.admits, TextTest.admits]
  | likes =>
    obtain ⟨bound, hBound, rfl⟩ := criteria_likes.mp h
    obtain ⟨bound', hBound', rfl⟩ := criteria_likes.mp h'
    simp [Criteria.admits, countBound_admits_dual hBound hBound']
  | retweets =>
    obtain ⟨bound, hBound, rfl⟩ := criteria_retweets.mp h
    obtain ⟨bound', hBound', rfl⟩ := criteria_retweets.mp h'
    simp [Criteria.admits, countBound_admits_dual hBound hBound']

end Field

namespace Phrase

variable {level : Level} {p : Phrase level} {now : Instant} {tree tree' : Tree}

/-- A phrase and its dual mean trees of the same shape. -/
theorem sameShape_dual (h : p.Means now tree) (h' : p.dual.Means now tree') :
    tree.SameShape tree' := by
  induction p generalizing tree tree' with
  | condition c =>
    obtain ⟨field, tests, hField, -, -, -, rfl⟩ := h
    obtain ⟨field', tests', hField', -, -, -, rfl⟩ := h'
    exact Option.some.inj (hField.symm.trans hField')
  | group inner ih => exact ih h h'
  | single operand ih => exact ih h h'
  | joined first join rest ihFirst ihRest =>
    obtain ⟨left, right, hLeft, hRight, rfl⟩ := h
    obtain ⟨left', right', hLeft', hRight', rfl⟩ := h'
    exact ⟨ihFirst hLeft hLeft', ihRest hRight hRight'⟩

/-- Away from the instants of a phrase, its dual admits the other posts. -/
theorem admits_dual (h : p.Means now tree) (h' : p.dual.Means now tree') {post : Post}
    (hInstants : ∀ t ∈ tree.instants, post.createdAt ≠ t) :
    tree'.admits post = !tree.admits post := by
  induction p generalizing tree tree' with
  | condition c =>
    obtain ⟨field, tests, hField, hOp, -, hTests, rfl⟩ := h
    obtain ⟨field', tests', hField', -, -, hTests', rfl⟩ := h'
    cases hField.symm.trans hField'
    exact Field.admits_dual hOp hTests hTests' hInstants
  | group inner ih => exact ih h h' hInstants
  | single operand ih => exact ih h h' hInstants
  | joined first join rest ihFirst ihRest =>
    obtain ⟨left, right, hLeft, hRight, rfl⟩ := h
    obtain ⟨left', right', hLeft', hRight', rfl⟩ := h'
    rw [Tree.instants, List.forall_mem_append] at hInstants
    have ihFirst := ihFirst hLeft hLeft' hInstants.1
    have ihRest := ihRest hRight hRight' hInstants.2
    cases join with
    | and => rw [Join.dual, Tree.admits, Tree.admits, ihFirst, ihRest, Bool.not_and]
    | or => rw [Join.dual, Tree.admits, Tree.admits, ihFirst, ihRest, Bool.not_or]

end Phrase

/-- Every text with the words of a rule, but for operators and joins replaced by their complements,
is a rule under the same options: of as many nodes, with the same fields and the same shape, and
with the opposite answer for every post created at none of the rule's instants. The text with the
replacements made in place is such a text. -/
theorem read_dual {options : Options} {text : String} {rule : Rule}
    (h : Rule.read options text = .ok rule) :
    ∃ words, wordsOf text = .ok words ∧ wordsOf (dualText text) = .ok (words.map Word.dual) ∧
      ∀ text', wordsOf text' = .ok (words.map Word.dual) →
        ∃ dual, Rule.read options text' = .ok dual ∧ dual.nodeCount = rule.nodeCount ∧
          dual.tree.fields = rule.tree.fields ∧ rule.tree.SameShape dual.tree ∧
          ∀ post : Post, (∀ t ∈ rule.tree.instants, post.createdAt ≠ t) →
            dual.admits post = !rule.admits post := by
  obtain ⟨p, hp⟩ := read_eq_ok_iff.mp h
  refine ⟨p.words, hp.words_eq, ?_, fun text' hWords => ?_⟩
  · rw [← p.words_dual]
    exact wordsOf_dualText hp.words_eq
  · rw [← p.words_dual] at hWords
    obtain ⟨dual, hDual⟩ := exists_read_dual hp hWords
    have hShape := Phrase.sameShape_dual hp.means hDual.means
    refine ⟨dual, read_eq_ok_iff.mpr ⟨p.dual, hDual⟩, ?_, hShape.fields_eq, hShape, ?_⟩
    · rw [hDual.nodeCount_eq, p.nodeCount_dual, hp.nodeCount_eq]
    · intro post hInstants
      exact Phrase.admits_dual hp.means hDual.means hInstants

theorem read_dual_sample : ∃ rule,
    Rule.read { now := .epoch } "likes > 3 && (retweets == 5 || likes < 9)" = .ok rule ∧
      ∃ words, wordsOf "likes > 3 && (retweets == 5 || likes < 9)" = .ok words ∧
        wordsOf (dualText "likes > 3 && (retweets == 5 || likes < 9)") =
          .ok (words.map Word.dual) ∧
        ∀ text', wordsOf text' = .ok (words.map Word.dual) →
          ∃ dual, Rule.read { now := .epoch } text' = .ok dual ∧
            dual.nodeCount = rule.nodeCount ∧ dual.tree.fields = rule.tree.fields ∧
            rule.tree.SameShape dual.tree ∧
            ∀ post : Post, (∀ t ∈ rule.tree.instants, post.createdAt ≠ t) →
              dual.admits post = !rule.admits post := by
  obtain ⟨rule, hRead⟩ := exists_read_sample
  exact ⟨rule, hRead, read_dual hRead⟩

end PostSieve.Rule
