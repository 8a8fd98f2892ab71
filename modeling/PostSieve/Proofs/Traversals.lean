import Mathlib.Order.Bounds.Basic
import PostSieve.Proofs.Counts
import PostSieve.Proofs.Leaves

/-! The walk through a tree: what is gathered on the way is what the conditions of the tree are from
left to right, and for a rule what its text names. -/

namespace PostSieve.Rule

open Calendar (Instant)

/-! ### Trees -/

namespace Tree

/-- The greatest depth that a walk meets is that of the lowest node. -/
theorem isGreatest_walk (tree : Tree) (depth : Nat) : ∃ lowest,
    IsGreatest {d | ∃ node, (d, node) ∈ tree.walk depth} lowest ∧
      depth + tree.height = lowest + 1 := by
  induction tree generalizing depth with
  | condition field op tests =>
    refine ⟨depth, ⟨⟨_, List.mem_singleton_self _⟩, ?_⟩, rfl⟩
    rintro d ⟨node, hNode⟩
    obtain ⟨rfl, -⟩ := Prod.mk.inj (List.mem_singleton.mp hNode)
    exact le_rfl
  | join op left right ihLeft ihRight =>
    obtain ⟨lowest, hLeft, hLeftHeight⟩ := ihLeft (depth + 1)
    obtain ⟨lowest', hRight, hRightHeight⟩ := ihRight (depth + 1)
    have hWalk : {d | ∃ node, (d, node) ∈ (join op left right).walk depth} =
        {depth} ∪ ({d | ∃ node, (d, node) ∈ left.walk (depth + 1)} ∪
          {d | ∃ node, (d, node) ∈ right.walk (depth + 1)}) := by
      ext d
      simp only [walk, List.mem_cons, List.mem_append, Prod.mk.injEq, exists_or,
        exists_and_left, exists_eq, and_true, Set.mem_union, Set.mem_singleton_iff,
        Set.mem_ofPred_eq]
    refine ⟨max depth (max lowest lowest'), ?_, ?_⟩
    · rw [hWalk]
      exact isGreatest_singleton.union (hLeft.union hRight)
    · rw [height]
      omega

end Tree

/-! ### Texts -/

/-- Each condition names the field that it tests. -/
theorem Phrase.Means.names_eq {level : Level} {p : Phrase level} {now : Instant} {tree : Tree}
    (h : p.Means now tree) :
    p.conditions.map Condition.name = tree.leaves.map (·.field.name) := by
  induction p generalizing tree with
  | condition c =>
    obtain ⟨field, tests, hField, -, -, -, rfl⟩ := h
    exact congrArg ([·]) (Field.ofName?_eq_some_iff.mp hField)
  | group inner ih => exact ih h
  | single operand ih => exact ih h
  | joined first join rest ihFirst ihRest =>
    obtain ⟨left, right, hLeft, hRight, rfl⟩ := h
    rw [conditions, List.map_append, ihFirst hLeft, ihRest hRight, Tree.leaves, List.map_append]

/-- The names among the tokens of a text, in their order. -/
def namesOf (text : String) : List String :=
  ((TokenStream.ofText text).tokens.filter (·.kind = .name)).map Token.value

theorem namesOf_eq {text : String} {words : List Word} (h : wordsOf text = .ok words) :
    namesOf text = (words.filter (·.kind = .name)).map Word.value := by
  rw [← (wordsOf_eq_ok_iff.mp h).2, List.filter_map, List.map_map]
  rfl

/-- What the walks through a tree gather agrees with the tree. Its fields are without repetition
those of its conditions, in the order in which these first have them from left to right; there is
one join less than conditions; and the height is one more than the greatest depth that is met. The
fields of a rule are what its text names, in the order of the text and without repetition. -/
theorem walks_agree :
    (∀ tree : Tree, tree.fields.Nodup ∧
      (∀ field, field ∈ tree.fields ↔ ∃ leaf ∈ tree.leaves, leaf.field = field) ∧
      (tree.fields.Pairwise fun field field' =>
        (tree.leaves.map Leaf.field).idxOf field < (tree.leaves.map Leaf.field).idxOf field') ∧
      tree.conditionCount = tree.joinCount + 1 ∧
      ∃ lowest, IsGreatest {depth | ∃ node, (depth, node) ∈ tree.walk 0} lowest ∧
        tree.height = 1 + lowest) ∧
    ∀ (options : Options) (text : String) (rule : Rule), Rule.read options text = .ok rule →
      rule.tree.fields.map Field.name = (namesOf text).eraseDups := by
  refine ⟨fun tree => ?_, fun options text rule hRead => ?_⟩
  · have hOrder := pairwise_idxOf_eraseDups (tree.leaves.map Leaf.field)
    rw [← tree.fields_eq_eraseDups] at hOrder
    obtain ⟨lowest, hGreatest, hHeight⟩ := tree.isGreatest_walk 0
    refine ⟨hOrder.imp ?_, fun field => ?_, hOrder, tree.joinCount_add_one.symm, lowest,
      hGreatest, by omega⟩
    · rintro field _ hLt rfl
      exact hLt.false
    · rw [tree.fields_eq_eraseDups, List.mem_eraseDups, List.mem_map]
  · obtain ⟨p, hp⟩ := read_eq_ok_iff.mp hRead
    have hInjective : Function.Injective Field.name := fun _ _ => Field.name_injective
    rw [namesOf_eq hp.words_eq, p.names_words, hp.means.names_eq, rule.tree.fields_eq_eraseDups,
      ← eraseDups_map hInjective, List.map_map]
    rfl

theorem walks_agree_sample : ∃ rule,
    Rule.read { now := .epoch } "likes > 3 && (retweets == 5 || likes < 9)" = .ok rule ∧
      rule.tree.fields.map Field.name = ["likes", "retweets"] := by
  obtain ⟨rule, hRead⟩ := exists_read_sample
  have hFields := walks_agree.2 _ _ rule hRead
  rw [namesOf_eq Phrase.wordsOf_sample] at hFields
  exact ⟨rule, hRead, hFields⟩

end PostSieve.Rule
