import PostSieve.Proofs.Counts
import PostSieve.Proofs.Dependence
import PostSieve.Proofs.LineBreaks
import PostSieve.Proofs.SingleConditions

/-! Outlines: what is written for each node of a rule, in which order, and where an outline breaks
its lines. Only a text pattern can break the line of its condition. -/

namespace PostSieve.Rule

/-! ### The texts for the nodes -/

namespace Tree

/-- What is written for a node behind its depth. -/
def label : Tree → String
  | condition field op tests =>
    ", kind: condition, field: " ++ field.name ++ ", op: " ++ op.text ++ ", children: 0, " ++
      ("rule: " ++ tests.text)
  | join op _ _ => ", kind: logical, op: " ++ op.text ++ ", children: 2"

/-- What is written for a node, without the line break behind it. -/
def description (depth : Nat) (tree : Tree) : String := s!"depth = {depth}" ++ tree.label

theorem line_eq (depth : Nat) (tree : Tree) :
    tree.line depth = tree.description depth ++ "\n" := by
  rw [← String.toList_inj]
  cases tree with
  | condition field op tests =>
    unfold line description label
    simp only [String.toList_append, List.append_assoc]
    rfl
  | join op left right =>
    unfold line description label
    simp only [String.toList_append, List.append_assoc]
    rfl

theorem lineBreaks_label_condition (field : Field) (op : TokenKind) (tests : Criteria) :
    lineBreaks (condition field op tests).label = patternBreaks tests.patterns := by
  have hField : lineBreaks ", kind: condition, field: " = 0 := by decide +kernel
  have hOp : lineBreaks ", op: " = 0 := by decide +kernel
  have hChildren : lineBreaks ", children: 0, " = 0 := by decide +kernel
  have hRule : lineBreaks "rule: " = 0 := by decide +kernel
  unfold label
  simp only [lineBreaks_append, hField, hOp, hChildren, hRule, field.lineBreaks_name,
    op.lineBreaks_text, tests.lineBreaks_text, Nat.zero_add]

theorem lineBreaks_label_join (op : Join) (left right : Tree) :
    lineBreaks (join op left right).label = 0 := by
  have hOp : lineBreaks ", kind: logical, op: " = 0 := by decide +kernel
  have hChildren : lineBreaks ", children: 2" = 0 := by decide +kernel
  unfold label
  simp only [lineBreaks_append, hOp, hChildren, op.lineBreaks_text, Nat.zero_add]

theorem lineBreaks_walk (tree : Tree) (depth : Nat) :
    lineBreaks (String.join ((tree.walk depth).map fun entry => entry.2.line entry.1)) =
      tree.conditionCount + tree.joinCount + patternBreaks tree.patterns := by
  have hLine (depth : Nat) (node : Tree) :
      lineBreaks (node.line depth) = lineBreaks node.label + 1 := by
    have hBegin : lineBreaks s!"depth = {depth}" = 0 :=
      lineBreaks_append_eq_zero rfl (lineBreaks_toString depth)
    rw [line_eq, description, lineBreaks_append, lineBreaks_append, hBegin, Nat.zero_add]
    rfl
  induction tree generalizing depth with
  | condition field op tests =>
    show lineBreaks (String.join [(condition field op tests).line depth]) = 1 + 0 + _
    rw [lineBreaks_join_cons, hLine, lineBreaks_label_condition, patterns, Nat.add_comm 1]
    rfl
  | join op left right ihLeft ihRight =>
    rw [walk, List.map_cons, List.map_append, lineBreaks_join_cons, lineBreaks_join_append,
      ihLeft, ihRight, hLine, lineBreaks_label_join, conditionCount_join, joinCount_join,
      patterns, patternBreaks_append]
    omega

/-- An outline has a line break for each node and those of the patterns. -/
theorem lineBreaks_outline (tree : Tree) : lineBreaks tree.outline =
    tree.conditionCount + tree.joinCount + patternBreaks tree.patterns :=
  tree.lineBreaks_walk 0

/-! ### The nodes in their order -/

/-- The node that a way down from the root leads to; `false` goes to the left and `true` to the
right. -/
def at? : Tree → List Bool → Option Tree
  | tree, [] => some tree
  | condition .., _ :: _ => none
  | join _ left right, isRight :: path => if isRight then right.at? path else left.at? path

/-- The ways to all nodes, each node in front of those below it and left before right. -/
def paths : Tree → List (List Bool)
  | condition .. => [[]]
  | join _ left right => [] :: (left.paths.map (false :: ·) ++ right.paths.map (true :: ·))

/-- Whether paths are those to all nodes of a tree, in the order of a dictionary: a path comes
before those that go on from it, and the paths to the left before those to the right. -/
structure IsPreorder (tree : Tree) (paths : List (List Bool)) : Prop where
  increasing : paths.Pairwise (· < ·)
  mem_iff : ∀ path, path ∈ paths ↔ (tree.at? path).isSome = true

theorem pairwise_paths (tree : Tree) : tree.paths.Pairwise (· < ·) := by
  induction tree with
  | condition field op tests => exact List.pairwise_singleton _ _
  | join op left right ihLeft ihRight =>
    have hCons {side : Bool} {paths : List (List Bool)} (h : paths.Pairwise (· < ·)) :
        (paths.map (side :: ·)).Pairwise (· < ·) :=
      h.map _ fun a b hLt => List.Lex.cons hLt
    rw [paths, List.pairwise_cons, List.pairwise_append]
    refine ⟨fun path hPath => ?_, hCons ihLeft, hCons ihRight, ?_⟩
    · have hNe : path ≠ [] := by
        rintro rfl
        simp at hPath
      obtain ⟨side, path, rfl⟩ := List.exists_cons_of_ne_nil hNe
      exact List.Lex.nil
    · intro a ha b hb
      obtain ⟨a, -, rfl⟩ := List.mem_map.mp ha
      obtain ⟨b, -, rfl⟩ := List.mem_map.mp hb
      exact List.Lex.rel (by decide)

theorem mem_paths_iff {tree : Tree} {path : List Bool} :
    path ∈ tree.paths ↔ (tree.at? path).isSome = true := by
  induction tree generalizing path with
  | condition field op tests => cases path <;> simp [paths, at?]
  | join op left right ihLeft ihRight =>
    cases path with
    | nil => simp [paths, at?]
    | cons side path => cases side <;> simp [paths, at?, ihLeft, ihRight]

theorem isPreorder_paths (tree : Tree) : tree.IsPreorder tree.paths :=
  ⟨tree.pairwise_paths, fun _ => mem_paths_iff⟩

/-- Whether a text is what is written for the node at the end of a path in a tree that lies at
`depth`: the depth of the node, deeper by the length of the path, and its label. -/
def Describes (depth : Nat) (tree : Tree) (path : List Bool) (text : String) : Prop :=
  ∃ node, tree.at? path = some node ∧ text = node.description (depth + path.length)

/-- Whether texts, each with a line break behind it, are the outline of a tree: one text for each
condition and join, in the order of the nodes. -/
structure Lists (tree : Tree) (texts : List String) : Prop where
  outline_eq : tree.outline = String.join (texts.map (· ++ "\n"))
  length_eq : texts.length = tree.conditionCount + tree.joinCount
  describes : ∃ paths, tree.IsPreorder paths ∧ List.Forall₂ (tree.Describes 0) paths texts

/-- The texts for the nodes, in the order of the walk. -/
def descriptions (depth : Nat) (tree : Tree) : List String :=
  (tree.walk depth).map fun entry => entry.2.description entry.1

theorem descriptions_join (depth : Nat) (op : Join) (left right : Tree) :
    (join op left right).descriptions depth =
      (join op left right).description depth ::
        (left.descriptions (depth + 1) ++ right.descriptions (depth + 1)) := by
  rw [descriptions, walk, List.map_cons, List.map_append]
  rfl

theorem forall₂_descriptions (depth : Nat) (tree : Tree) :
    List.Forall₂ (tree.Describes depth) tree.paths (tree.descriptions depth) := by
  induction tree generalizing depth with
  | condition field op tests => exact .cons ⟨_, rfl, rfl⟩ .nil
  | join op left right ihLeft ihRight =>
    have hBelow {side : Bool} {child : Tree}
        (hChild : ∀ path, (join op left right).at? (side :: path) = child.at? path)
        (h : List.Forall₂ (child.Describes (depth + 1)) child.paths
          (child.descriptions (depth + 1))) :
        List.Forall₂ ((join op left right).Describes depth) (child.paths.map (side :: ·))
          (child.descriptions (depth + 1)) := by
      rw [List.forall₂_map_left_iff]
      apply h.imp
      rintro path text ⟨node, hNode, rfl⟩
      refine ⟨node, (hChild path).trans hNode, ?_⟩
      rw [List.length_cons, Nat.add_assoc, Nat.add_comm 1]
    rw [descriptions_join, paths]
    refine .cons ⟨_, rfl, rfl⟩ (List.rel_append ?_ ?_)
    · exact hBelow (fun _ => rfl) (ihLeft (depth + 1))
    · exact hBelow (fun _ => rfl) (ihRight (depth + 1))

theorem length_descriptions (depth : Nat) (tree : Tree) :
    (tree.descriptions depth).length = tree.conditionCount + tree.joinCount := by
  induction tree generalizing depth with
  | condition field op tests => rfl
  | join op left right ihLeft ihRight =>
    rw [descriptions_join, List.length_cons, List.length_append, ihLeft, ihRight,
      conditionCount_join, joinCount_join]
    omega

theorem outline_eq_descriptions (tree : Tree) :
    tree.outline = String.join ((tree.descriptions 0).map (· ++ "\n")) := by
  rw [outline, descriptions, List.map_map]
  exact congrArg String.join (List.map_congr_left fun entry _ => entry.2.line_eq entry.1)

/-- An outline is made of one text for each node, whatever the patterns are. -/
theorem lists_descriptions (tree : Tree) : tree.Lists (tree.descriptions 0) where
  outline_eq := tree.outline_eq_descriptions
  length_eq := tree.length_descriptions 0
  describes := ⟨tree.paths, tree.isPreorder_paths, tree.forall₂_descriptions 0⟩

example : (join .or (condition .likes .gt { likes := some ⟨.gt, 3⟩ })
    (condition .retweets .eq { retweets := some ⟨.eq, 5⟩ })).outline =
    "depth = 0, kind: logical, op: OR, children: 2\n" ++
    "depth = 1, kind: condition, field: likes, op: >, children: 0, rule: likes > 3\n" ++
    "depth = 1, kind: condition, field: retweets, op: ==, children: 0, rule: retweets == 5\n" := by
  decide +kernel

variable {tree : Tree} {texts : List String}

theorem Lists.lineBreaks_eq (h : tree.Lists texts) :
    lineBreaks (String.join texts) = patternBreaks tree.patterns := by
  have hEnds (texts : List String) : lineBreaks (String.join (texts.map (· ++ "\n"))) =
      lineBreaks (String.join texts) + texts.length := by
    induction texts with
    | nil => rfl
    | cons text texts ih =>
      have hEnd : lineBreaks "\n" = 1 := rfl
      rw [List.map_cons, lineBreaks_join_cons, lineBreaks_join_cons, lineBreaks_append, ih, hEnd,
        List.length_cons]
      omega
  have hBreaks := tree.lineBreaks_outline
  rw [h.outline_eq, hEnds, h.length_eq] at hBreaks
  omega

/-- The texts for the nodes are lines exactly if no pattern breaks one. -/
theorem Lists.forall_not_mem_iff (h : tree.Lists texts) :
    (∀ text ∈ texts, '\n' ∉ text.toList) ↔ patternBreaks tree.patterns = 0 := by
  rw [← h.lineBreaks_eq, lineBreaks_join_eq_zero_iff]
  exact forall₂_congr fun text _ => lineBreaks_eq_zero_iff.symm

theorem exists_lists_iff :
    (∃ lines, tree.Lists lines ∧ ∀ line ∈ lines, '\n' ∉ line.toList) ↔
      patternBreaks tree.patterns = 0 := by
  constructor
  · rintro ⟨lines, hLists, hLines⟩
    exact hLists.forall_not_mem_iff.mp hLines
  · intro hNone
    exact ⟨_, tree.lists_descriptions, tree.lists_descriptions.forall_not_mem_iff.mpr hNone⟩

end Tree

/-! ### The outline of a rule -/

/-- The string that a condition compares with, and nothing for other literals. -/
def Condition.stringText (c : Condition) : String :=
  if c.literal.kind = .string then c.literal.value else ""

theorem Quotes.lineBreaks_eq {value source : String} (h : Quotes value source) :
    lineBreaks value = lineBreaks source := by
  rw [lineBreaks, h, List.count_cons_of_ne (by decide), List.count_append,
    List.count_singleton]
  rfl

theorem source_of_read {source : String} {pattern : Pattern}
    (h : Pattern.read? source = some pattern) : pattern.source = source := by
  unfold Pattern.read? at h
  split at h
  · cases h
    rfl
  · cases h

theorem exists_pattern_of_isSome {source : String}
    (h : (Pattern.Term.read? source).isSome = true) :
    ∃ pattern, Pattern.read? source = some pattern := by
  obtain ⟨term, hTerm⟩ := Option.isSome_iff_exists.mp h
  unfold Pattern.read?
  split
  · exact ⟨_, rfl⟩
  · rename_i hNone
    rw [hNone] at hTerm
    cases hTerm

/-- The patterns of a condition break lines as often as its string does. -/
theorem Condition.patternBreaks_of_means {now : Calendar.Instant} {c : Condition} {tree : Tree}
    (hLexical : c.IsLexical) (h : c.Means now tree) :
    patternBreaks tree.patterns = lineBreaks c.stringText := by
  obtain ⟨field, tests, -, -, hLiteral, hTests, rfl⟩ := h
  have hLanguage : field.literal.Language c.literal.value.toList := hLiteral ▸ hLexical.2
  rw [stringText, hLiteral]
  cases field with
  | text =>
    obtain ⟨pattern, hPattern, rfl⟩ := Field.criteria_text.mp hTests
    show lineBreaks (String.join [pattern.source]) = lineBreaks c.literal.value
    rw [lineBreaks_join_cons, (exists_quotes hLanguage).lineBreaks_eq, ← source_of_read hPattern]
    rfl
  | age | created | likes | retweets =>
    -- Tests of another field leave out the pattern.
    rw [Tree.patterns, Field.criteria_testsOnly hTests]
    rfl

theorem Phrase.patternBreaks_of_means {level : Level} {p : Phrase level}
    {now : Calendar.Instant} {tree : Tree} (hLexical : ∀ c ∈ p.conditions, c.IsLexical)
    (h : p.Means now tree) :
    patternBreaks tree.patterns =
      lineBreaks (String.join (p.conditions.map Condition.stringText)) := by
  induction p generalizing tree with
  | condition c =>
    rw [c.patternBreaks_of_means (hLexical c (List.mem_singleton_self c)) h, conditions,
      List.map_singleton, lineBreaks_join_cons]
    rfl
  | group inner ih => exact ih hLexical h
  | single operand ih => exact ih hLexical h
  | joined first join rest ihFirst ihRest =>
    obtain ⟨left, right, hLeft, hRight, rfl⟩ := h
    rw [conditions, List.forall_mem_append] at hLexical
    rw [Tree.patterns, patternBreaks_append, ihFirst hLexical.1 hLeft, ihRest hLexical.2 hRight,
      conditions, List.map_append, lineBreaks_join_append]

/-- The outline of a rule has a text for each condition and join of its tree, in the order of the
nodes and with their depths in front, and a line break behind each. The line breaks in the strings
of the rule stand in these texts, and no others, so that the texts are lines exactly if no string
holds a line break. -/
theorem read_outline {options : Options} {text : String} {rule : Rule}
    (h : Rule.read options text = .ok rule) :
    ∃ words, wordsOf text = .ok words ∧ (∃ texts, rule.tree.Lists texts) ∧
      lineBreaks rule.tree.outline = rule.tree.conditionCount + rule.tree.joinCount +
        lineBreaks (String.join ((conditionsIn words).map Condition.stringText)) ∧
      ((∃ lines, rule.tree.Lists lines ∧ ∀ line ∈ lines, '\n' ∉ line.toList) ↔
        ∀ c ∈ conditionsIn words, c.literal.kind = .string →
          '\n' ∉ c.literal.value.toList) := by
  obtain ⟨p, hp⟩ := read_eq_ok_iff.mp h
  have hBreaks := p.patternBreaks_of_means (isLexical_conditions hp.words_eq) hp.means
  refine ⟨p.words, hp.words_eq, ⟨_, rule.tree.lists_descriptions⟩, ?_, ?_⟩
  · rw [Tree.lineBreaks_outline, hBreaks, p.conditionsIn_eq]
  · rw [Tree.exists_lists_iff, hBreaks, p.conditionsIn_eq, lineBreaks_join_eq_zero_iff,
      List.forall_mem_map]
    refine forall₂_congr fun c _ => ?_
    by_cases hString : c.literal.kind = .string <;>
      simp [Condition.stringText, hString, lineBreaks_eq_zero_iff]

theorem read_outline_sample : ∃ rule,
    Rule.read { now := .epoch } "likes > 3 && (retweets == 5 || likes < 9)" = .ok rule ∧
      lineBreaks rule.tree.outline = 5 ∧
      ∃ lines, rule.tree.Lists lines ∧ ∀ line ∈ lines, '\n' ∉ line.toList := by
  obtain ⟨rule, hRead⟩ := exists_read_sample
  obtain ⟨words, hWords, -, hBreaks, hLines⟩ := read_outline hRead
  obtain rfl : Phrase.sample.words = words :=
    Except.ok.inj (Phrase.wordsOf_sample.symm.trans hWords)
  obtain ⟨p, hp⟩ := read_eq_ok_iff.mp hRead
  obtain rfl : p = Phrase.sample :=
    Phrase.words_injective (Except.ok.inj (hp.words_eq.symm.trans hWords))
  have hConditions : rule.tree.conditionCount = 3 := hp.means.conditionCount_eq
  have hJoins := rule.tree.joinCount_add_one
  have hNone : lineBreaks (String.join ((conditionsIn Phrase.sample.words).map
      Condition.stringText)) = 0 := by decide
  exact ⟨rule, hRead, by omega, hLines.mpr (by decide)⟩

/-- A string that holds a line break spreads the outline of its condition over two lines. -/
theorem not_lists_of_break : ¬ ∀ (options : Options) (text : String) (rule : Rule),
    Rule.read options text = .ok rule →
      ∃ lines, rule.tree.Lists lines ∧ ∀ line ∈ lines, '\n' ∉ line.toList := by
  intro h
  have hOp : TokenKind.finds ∈ Field.text.operators := by decide
  have hLiteral : Field.text.literal.Language "\"a\nb\"".toList :=
    ⟨['a', '\n', 'b'], by decide, rfl⟩
  obtain ⟨pattern, hPattern⟩ : ∃ pattern, Pattern.read? "a\nb" = some pattern :=
    exists_pattern_of_isSome (by decide +kernel)
  have hAccepts : Field.text.Accepts .epoch "\"a\nb\"" := ⟨"a\nb", pattern, rfl, hPattern⟩
  let options : Options := { now := .epoch }
  obtain ⟨rule, hRead⟩ : ∃ rule,
      Rule.read options (Field.text.conditionText .finds "\"a\nb\"") = .ok rule :=
    exists_read_conditionText hOp hLiteral (by decide) hAccepts
  obtain ⟨tests, hTests, hTree⟩ :=
    tree_of_wordsOf_ofField (wordsOf_conditionText hOp hLiteral) hRead
  obtain ⟨pattern', hPattern', rfl⟩ := Field.criteria_text.mp hTests
  have hNone := Tree.exists_lists_iff.mp (h _ _ _ hRead)
  rw [hTree, patternBreaks_eq_zero_iff] at hNone
  have hBreak := hNone pattern' (List.mem_singleton_self pattern')
  rw [source_of_read hPattern'] at hBreak
  exact absurd hBreak (by decide +kernel)

end PostSieve.Rule
