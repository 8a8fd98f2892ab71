import PostSieve.Proofs.Composition
import PostSieve.Proofs.OuterParens

/-! How deep a rule goes: its tree is no higher than it has conditions, and evaluating it calls for
no more evaluations within one another than its text nests parentheses, and one, since the right
part of a join takes the place of the join. -/

namespace PostSieve.Rule

namespace Tree

theorem height_pos (tree : Tree) : 0 < tree.height := by
  cases tree with
  | condition field op criteria => exact Nat.one_pos
  | join op left right =>
    rw [height]
    omega

theorem height_le_conditionCount (tree : Tree) : tree.height ≤ tree.conditionCount := by
  induction tree with
  | condition field op criteria => exact Nat.le_refl 1
  | join op left right ihLeft ihRight =>
    have := left.height_pos
    have := right.height_pos
    rw [height, conditionCount_join]
    omega

/-- How many evaluations lie within the first one. The left part of a join is evaluated within the
evaluation of the join; the right part then takes the place of the join. -/
def callDepth : Tree → Nat
  | condition .. => 0
  | join _ left right => max (1 + left.callDepth) right.callDepth

/-- Whether a post matches a rule, where `room` evaluations may lie within one another below this
one; nothing if one more is called for. The right part of a join is evaluated in the room of the
join. -/
def admitsWithin (post : Post) : Tree → Nat → Option Bool
  | condition _ _ criteria, _ => some (criteria.admits post)
  | join .., 0 => none
  | join .and left right, room + 1 => do
    if ← left.admitsWithin post room then right.admitsWithin post (room + 1) else some false
  | join .or left right, room + 1 => do
    if ← left.admitsWithin post room then some true else right.admitsWithin post (room + 1)

/-- In as much room as the calls need, an evaluation comes to its end, with the value of the
tree. -/
theorem admitsWithin_eq (post : Post) {tree : Tree} {room : Nat} (h : tree.callDepth ≤ room) :
    tree.admitsWithin post room = some (tree.admits post) := by
  induction tree generalizing room with
  | condition field op criteria => rfl
  | join op left right ihLeft ihRight =>
    rw [callDepth] at h
    cases room with
    | zero => omega
    | succ room =>
      have hLeft : left.admitsWithin post room = some (left.admits post) := ihLeft (by omega)
      have hRight : right.admitsWithin post (room + 1) = some (right.admits post) :=
        ihRight (by omega)
      cases op with
      | and =>
        rw [admitsWithin, hLeft, hRight, admits]
        cases left.admits post <;> rfl
      | or =>
        rw [admitsWithin, hLeft, hRight, admits]
        cases left.admits post <;> rfl

end Tree

/-- Only the joins of a chain add to the calls for its operands, and only once. -/
def Level.calls : Level → Nat
  | .operand => 0
  | .chain => 1

theorem Phrase.Means.callDepth_le {level : Level} {p : Phrase level} {now : Calendar.Instant}
    {tree : Tree} (h : p.Means now tree) : tree.callDepth ≤ p.depth + level.calls := by
  induction p generalizing tree with
  | condition c =>
    obtain ⟨field, criteria, -, -, -, -, rfl⟩ := h
    exact Nat.zero_le _
  | group inner ih => exact ih h
  | single operand ih => exact Nat.le_succ_of_le (ih h)
  | joined first join rest ihFirst ihRest =>
    obtain ⟨left, right, hLeft, hRight, rfl⟩ := h
    have hFirst := ihFirst hLeft
    have hRest := ihRest hRight
    simp only [Level.calls] at hFirst hRest ⊢
    rw [Tree.callDepth, depth]
    omega

/-- The limits bound how deep a rule goes, however long its chains are. Its tree is no higher than
it has conditions, of which there are no more than may be; evaluating it calls for no more
evaluations within one another than the parentheses of its text are nested, and one. These are
nested no deeper than they may be, so that in this room each post is given its answer. -/
theorem read_depths {options : Options} {text : String} {rule : Rule}
    (h : Rule.read options text = .ok rule) :
    rule.tree.height ≤ rule.tree.conditionCount ∧
      rule.tree.conditionCount ≤ options.maxConditions ∧
      rule.tree.callDepth ≤ 1 + nesting 0 (outerParens false text.toList) ∧
      nesting 0 (outerParens false text.toList) ≤ options.maxDepth ∧
      rule.tree.callDepth ≤ options.maxDepth + 1 ∧
      ∀ post, rule.tree.admitsWithin post (options.maxDepth + 1) = some (rule.admits post) := by
  obtain ⟨phrase, hp⟩ := read_eq_ok_iff.mp h
  have hNesting : nesting 0 (outerParens false text.toList) = phrase.depth := by
    rw [nesting_of_wordsOf hp.words_eq, phrase.nesting_eq]
  have hCalls : rule.tree.callDepth ≤ phrase.depth + 1 := hp.means.callDepth_le
  have hDepth := hp.depth_le
  have hLimit : rule.tree.callDepth ≤ options.maxDepth + 1 := by omega
  refine ⟨rule.tree.height_le_conditionCount, conditionCount_le_of_read h, by omega, by omega,
    hLimit, fun post => Tree.admitsWithin_eq post hLimit⟩

theorem read_depths_sample : ∃ rule,
    Rule.read { now := .epoch } "likes > 3 && (retweets == 5 || likes < 9)" = .ok rule ∧
      rule.tree.height ≤ rule.tree.conditionCount ∧ rule.tree.conditionCount ≤ 1024 ∧
      rule.tree.callDepth ≤ 2 ∧
      ∀ post, rule.tree.admitsWithin post 65 = some (rule.admits post) := by
  obtain ⟨rule, hRead⟩ := exists_read_sample
  obtain ⟨hHeight, hCount, hCalls, -, -, hAdmits⟩ := read_depths hRead
  have hNesting : nesting 0
      (outerParens false "likes > 3 && (retweets == 5 || likes < 9)".toList) = 1 := by decide
  rw [hNesting] at hCalls
  exact ⟨rule, hRead, hHeight, hCount, hCalls, hAdmits⟩

end PostSieve.Rule
