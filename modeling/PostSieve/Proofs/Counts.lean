import PostSieve.Proofs.Composition
import PostSieve.Proofs.Consumption
import PostSieve.Proofs.GrammarErrors
import PostSieve.Proofs.OuterParens
import PostSieve.Proofs.Reuse

/-! The numbers of a rule: how many nodes are counted, how many conditions and joins its tree has,
and how many tokens are taken, from the names and the parentheses of the text alone. -/

namespace PostSieve.Rule

/-! ### Trees -/

namespace Tree

theorem joinCount_join (op : Join) (left right : Tree) :
    (join op left right).joinCount = left.joinCount + right.joinCount + 1 := by
  have hDepth := countP_walk_depth fun node => node.join?.isSome
  simp only [joinCount, walk, List.countP_cons, List.countP_append]
  rw [hDepth left 1 0, hDepth right 1 0]
  rfl

/-- A tree of two branches at each join has one more condition than joins. -/
theorem joinCount_add_one (tree : Tree) : tree.joinCount + 1 = tree.conditionCount := by
  induction tree with
  | condition field op criteria => rfl
  | join op left right ihLeft ihRight =>
    rw [joinCount_join, conditionCount_join]
    omega

end Tree

/-! ### Phrases -/

namespace Phrase

variable {level : Level}

/-- The number of groups, each of which opens one parenthesis. -/
def groupCount (p : Phrase level) : Nat := (p.words.map Word.kind).count .openParen

theorem groupCount_condition (c : Condition) : (condition c).groupCount = 0 := by
  rw [groupCount, List.count_eq_zero]
  intro hMem
  obtain ⟨word, hWord, hKind⟩ := List.mem_map.mp hMem
  exact (c.not_paren_of_mem_words hWord).1 hKind

theorem groupCount_group (inner : Phrase .chain) :
    (group inner).groupCount = inner.groupCount + 1 := by
  simp [groupCount, words]

theorem groupCount_joined (first : Phrase .operand) (join : Join) (rest : Phrase .chain) :
    (joined first join rest).groupCount = first.groupCount + rest.groupCount := by
  have hJoin : join.token ≠ .openParen := by cases join <;> decide
  simp [groupCount, words, hJoin]

/-- A condition counts once, and once more for the join between it and the next; a group counts
once. -/
theorem nodeCount_add_one (p : Phrase level) :
    p.nodeCount + 1 = 2 * p.conditions.length + p.groupCount := by
  induction p with
  | condition c =>
    rw [groupCount_condition]
    rfl
  | group inner ih =>
    rw [groupCount_group, nodeCount, conditions]
    omega
  | single operand ih => exact ih
  | joined first join rest ihFirst ihRest =>
    rw [groupCount_joined, nodeCount, conditions, List.length_append]
    omega

/-- A condition has three words, and one more for the join between it and the next; a group adds
two. -/
theorem length_words_add_one (p : Phrase level) :
    p.words.length + 1 = 4 * p.conditions.length + 2 * p.groupCount := by
  induction p with
  | condition c =>
    rw [groupCount_condition]
    rfl
  | group inner ih =>
    rw [groupCount_group, words, conditions, List.length_cons, List.length_append,
      List.length_singleton]
    omega
  | single operand ih => exact ih
  | joined first join rest ihFirst ihRest =>
    rw [groupCount_joined, words, conditions, List.length_append, List.length_append,
      List.length_cons]
    omega

end Phrase

/-! ### Rules -/

/-- The counts of a rule agree. Its tree has as many conditions as the text has names, and one join
less; the nodes counted while it was read are the conditions, the joins and the groups, of which
there are as many as parentheses opened among the tokens, which are those opened outside the strings
of the text. A parser takes four tokens for each condition but the last, three for that, and two for
each group. -/
theorem read_counts {options : Options} {text : String} {rule : Rule}
    (h : Rule.read options text = .ok rule) :
    let kinds := (TokenStream.ofText text).tokens.map Token.kind
    let names := kinds.count .name
    let groups := kinds.count .openParen
    rule.tree.conditionCount = names ∧ rule.tree.joinCount + 1 = names ∧
      rule.nodeCount + 1 = 2 * names + groups ∧
      rule.nodeCount = rule.tree.conditionCount + rule.tree.joinCount + groups ∧
      groups = (outerParens false text.toList).count .openParen ∧
      ∀ p : Parser, p.options = options → p.cursor.text = text →
        ∃ q, p.parse = (.ok rule, q) ∧ q.cursor.count + 1 = 4 * names + 2 * groups := by
  intro kinds names groups
  obtain ⟨phrase, hp⟩ := read_eq_ok_iff.mp h
  have hKinds : kinds = phrase.words.map Word.kind := kinds_of_wordsOf hp.words_eq
  have hNames : names = phrase.conditions.length := by
    rw [← phrase.count_name, ← hKinds]
  have hGroups : groups = phrase.groupCount := by
    rw [Phrase.groupCount, ← hKinds]
  have hConditions : rule.tree.conditionCount = names :=
    hp.means.conditionCount_eq.trans hNames.symm
  have hJoins := rule.tree.joinCount_add_one
  have hNodes : rule.nodeCount + 1 = 2 * names + groups := by
    rw [hp.nodeCount_eq, hNames, hGroups, phrase.nodeCount_add_one]
  refine ⟨hConditions, hJoins.trans hConditions, hNodes, by omega, ?_, ?_⟩
  · rw [count_openParen_of_wordsOf hp.words_eq, ← hKinds]
  · rintro p rfl rfl
    have hParse : p.parse = (.ok rule, p.parse.2) :=
      Prod.ext (p.parse_spec.1.trans h) rfl
    have hSize : (TokenStream.ofText p.cursor.text).size = phrase.words.length := by
      rw [← (wordsOf_eq_ok_iff.mp hp.words_eq).2, List.length_map]
      rfl
    refine ⟨_, hParse, ?_⟩
    rw [Parser.count_of_parse hParse, hSize, hNames, hGroups, phrase.length_words_add_one]

theorem read_counts_sample : ∃ rule,
    Rule.read { now := .epoch } "likes > 3 && (retweets == 5 || likes < 9)" = .ok rule ∧
      rule.tree.conditionCount = 3 ∧ rule.tree.joinCount = 2 ∧ rule.nodeCount = 6 ∧
      ∃ q, (Parser.start { now := .epoch } "likes > 3 && (retweets == 5 || likes < 9)").parse =
        (.ok rule, q) ∧ q.cursor.count = 13 := by
  obtain ⟨rule, hRead⟩ := exists_read_sample
  have hCounts := read_counts hRead
  rw [kinds_of_wordsOf Phrase.wordsOf_sample] at hCounts
  have hNames : (Phrase.sample.words.map Word.kind).count .name = 3 := by decide
  have hGroups : (Phrase.sample.words.map Word.kind).count .openParen = 1 := by decide
  simp only [hNames, hGroups] at hCounts
  obtain ⟨hConditions, hJoins, hNodes, -, -, hParse⟩ := hCounts
  obtain ⟨q, hq, hTaken⟩ := hParse (Parser.start _ _) rfl rfl
  exact ⟨rule, hRead, hConditions, by omega, by omega, q, hq, by omega⟩

end PostSieve.Rule
