import PostSieve.Proofs.Acceptance

/-! Composing rules by their texts: a rule in parentheses, and two rules with a join between them,
are rules, and putting all that stands behind a join into parentheses changes no tree. -/

namespace PostSieve.Rule

open Calendar (Instant)

/-! ### Texts from texts -/

/-- A text in parentheses. -/
def inParens (text : String) : String := "(" ++ text ++ ")"

/-- Two texts with a join between them, and with `gap` and `gap'` on its two sides. -/
def joinTexts (join : Join) (gap gap' left right : String) : String :=
  left ++ gap ++ join.token.text ++ gap' ++ right

theorem spelled_inParens {words : List Word} {text : String} (h : Spelled words text.toList) :
    Spelled (.symbol .openParen :: (words ++ [.symbol .closeParen])) (inParens text).toList := by
  have hNil : Spelled [] [] := .nil (List.forall_mem_nil _)
  have hText : (inParens text).toList = ['('] ++ (text.toList ++ ([')'] ++ [])) := by
    simp [inParens]
  rw [hText]
  exact .symbol .openParen (h.append (.symbol .closeParen hNil))

theorem spelled_joinTexts {words words' : List Word} {left right gap gap' : String}
    (h : Spelled words left.toList) (h' : Spelled words' right.toList) (join : Join)
    (hGap : ∀ c ∈ gap.toList, isBlank c = true) (hGap' : ∀ c ∈ gap'.toList, isBlank c = true) :
    Spelled (words ++ .symbol join.token :: words')
      (joinTexts join gap gap' left right).toList := by
  have hJoin := Spelled.symbol join.token (h'.gap_append hGap')
  simp only [joinTexts, String.toList_append, List.append_assoc]
  exact h.append (hJoin.gap_append hGap)

/-! ### Chains one behind the other -/

namespace Phrase

/-- A phrase that goes on with a join and a chain behind its last operand. -/
def andThen : {level : Level} → Phrase level → Join → Phrase .chain → Phrase .chain
  | _, condition c, join, others => joined (condition c) join others
  | _, group inner, join, others => joined (group inner) join others
  | _, single operand, join, others => joined operand join others
  | _, joined first join' rest, join, others => joined first join' (rest.andThen join others)

variable {level : Level} (p : Phrase level) (join : Join) (others : Phrase .chain)

theorem words_andThen :
    (p.andThen join others).words = p.words ++ .symbol join.token :: others.words := by
  induction p with
  | condition c => rfl
  | group inner _ => rfl
  | single operand _ => rfl
  | joined first join' rest _ ih =>
    rw [andThen, words, ih, words, List.append_assoc, List.cons_append]

theorem conditions_andThen :
    (p.andThen join others).conditions = p.conditions ++ others.conditions := by
  induction p with
  | condition c => rfl
  | group inner _ => rfl
  | single operand _ => rfl
  | joined first join' rest _ ih => rw [andThen, conditions, ih, conditions, List.append_assoc]

theorem depth_andThen : (p.andThen join others).depth = max p.depth others.depth := by
  induction p with
  | condition c => rfl
  | group inner _ => rfl
  | single operand _ => rfl
  | joined first join' rest _ ih => rw [andThen, depth, ih, depth, max_assoc]

theorem nodeCount_andThen :
    (p.andThen join others).nodeCount = p.nodeCount + others.nodeCount + 1 := by
  induction p with
  | condition c => rfl
  | group inner _ => rfl
  | single operand _ => rfl
  | joined first join' rest _ ih =>
    rw [andThen, nodeCount, ih, nodeCount]
    omega

/-- What the longer phrase means depends on what the chain behind the join means, and not on how
that is written. -/
theorem exists_means_andThen {p : Phrase level} {now : Instant} {tree : Tree}
    (h : p.Means now tree) (join : Join) (right : Tree) : ∃ whole, ∀ others : Phrase .chain,
      others.Means now right → (p.andThen join others).Means now whole := by
  induction p generalizing tree with
  | condition c => exact ⟨.join join tree right, fun _ hOthers => ⟨_, _, h, hOthers, rfl⟩⟩
  | group inner _ => exact ⟨.join join tree right, fun _ hOthers => ⟨_, _, h, hOthers, rfl⟩⟩
  | single operand _ => exact ⟨.join join tree right, fun _ hOthers => ⟨_, _, h, hOthers, rfl⟩⟩
  | joined first join' rest _ ih =>
    obtain ⟨left, middle, hLeft, hMiddle, rfl⟩ := h
    obtain ⟨whole, hWhole⟩ := ih hMiddle
    refine ⟨.join join' left whole, fun others hOthers => ?_⟩
    exact ⟨left, whole, hLeft, hWhole others hOthers, rfl⟩

end Phrase

/-! ### Counting conditions -/

namespace Tree

theorem countP_walk_depth (test : Tree → Bool) (tree : Tree) (depth depth' : Nat) :
    (tree.walk depth).countP (fun node => test node.2) =
      (tree.walk depth').countP (fun node => test node.2) := by
  induction tree generalizing depth depth' with
  | condition field op criteria => simp [walk, List.countP_cons]
  | join op left right ihLeft ihRight =>
    simp only [walk, List.countP_cons, List.countP_append]
    rw [ihLeft (depth + 1) (depth' + 1), ihRight (depth + 1) (depth' + 1)]

theorem conditionCount_join (op : Join) (left right : Tree) :
    (join op left right).conditionCount = left.conditionCount + right.conditionCount := by
  have hDepth := countP_walk_depth fun node => node.field?.isSome
  simp only [conditionCount, walk, List.countP_cons, List.countP_append]
  rw [hDepth left 1 0, hDepth right 1 0]
  rfl

end Tree

/-- A tree has as many conditions as the phrase that means it. -/
theorem Phrase.Means.conditionCount_eq {level : Level} {p : Phrase level} {now : Instant}
    {tree : Tree} (h : p.Means now tree) : tree.conditionCount = p.conditions.length := by
  induction p generalizing tree with
  | condition c =>
    obtain ⟨field, criteria, -, -, -, -, rfl⟩ := h
    rfl
  | group inner ih => exact ih h
  | single operand ih => exact ih h
  | joined first join rest ihFirst ihRest =>
    obtain ⟨left, right, hLeft, hRight, rfl⟩ := h
    rw [Tree.conditionCount_join, ihFirst hLeft, ihRest hRight, conditions, List.length_append]

/-! ### Rules from rules -/

section Composition

variable {left right gap gap' : String} {p q : Phrase .chain}

theorem wordsOf_inParens (h : wordsOf left = .ok p.words) :
    wordsOf (inParens left) = .ok (Phrase.single (.group p)).words := by
  have hSpelled : Spelled (Phrase.single (.group p)).words (inParens left).toList :=
    spelled_inParens (spelled_of_wordsOf h)
  apply Phrase.wordsOf_of_spelled hSpelled
  rw [Phrase.isLexical_words_iff]
  show ∀ c ∈ p.conditions, c.IsLexical
  exact isLexical_conditions h

theorem wordsOf_joinTexts (join : Join) (hLeft : wordsOf left = .ok p.words)
    (hRight : wordsOf right = .ok q.words) (hGap : ∀ c ∈ gap.toList, isBlank c = true)
    (hGap' : ∀ c ∈ gap'.toList, isBlank c = true) :
    wordsOf (joinTexts join gap gap' left right) = .ok (p.andThen join q).words := by
  have hSpelled :=
    spelled_joinTexts (spelled_of_wordsOf hLeft) (spelled_of_wordsOf hRight) join hGap hGap'
  rw [← p.words_andThen] at hSpelled
  apply Phrase.wordsOf_of_spelled hSpelled
  rw [Phrase.isLexical_words_iff, p.conditions_andThen, List.forall_mem_append]
  exact ⟨isLexical_conditions hLeft, isLexical_conditions hRight⟩

/-- A phrase within the limits is read as the tree that it means. -/
theorem read_of_words {options : Options} {text : String} {tree : Tree}
    (hWords : wordsOf text = .ok p.words) (hMeans : p.Means options.now tree)
    (hDepth : p.depth ≤ options.maxDepth)
    (hCount : p.conditions.length ≤ options.maxConditions) :
    Rule.read options text = .ok ⟨tree, p.nodeCount, text⟩ :=
  read_eq_ok_iff.mpr ⟨p, hWords, hDepth, hCount, hMeans, rfl, rfl⟩

theorem conditionCount_le_of_read {options : Options} {text : String} {rule : Rule}
    (h : Rule.read options text = .ok rule) :
    rule.tree.conditionCount ≤ options.maxConditions := by
  obtain ⟨p, hp⟩ := read_eq_ok_iff.mp h
  rw [hp.means.conditionCount_eq]
  exact hp.conditions_le

variable {now : Instant} {depth count count' : Nat} {options : Options} {a r : Rule}

/-- Of two texts that are rules one level of parentheses below a limit, each in parentheses is a
rule with the same tree and one more node; and with a join between them they are one rule. Its tree
joins theirs if the first is in parentheses, and does not depend on whether the second is. -/
theorem read_compose (join : Join) (hLeft : Rule.read ⟨now, depth, count⟩ left = .ok a)
    (hRight : Rule.read ⟨now, depth, count'⟩ right = .ok r) (hNow : options.now = now)
    (hDepth : depth + 1 ≤ options.maxDepth)
    (hCount : a.tree.conditionCount + r.tree.conditionCount ≤ options.maxConditions)
    (hGap : ∀ c ∈ gap.toList, isBlank c = true) (hGap' : ∀ c ∈ gap'.toList, isBlank c = true) :
    (∃ whole, Rule.read options (inParens left) = .ok whole ∧ whole.tree = a.tree ∧
      whole.nodeCount = a.nodeCount + 1) ∧
    (∃ whole, Rule.read options (joinTexts join gap gap' (inParens left) right) = .ok whole ∧
      whole.tree = .join join a.tree r.tree ∧
      whole.nodeCount = a.nodeCount + r.nodeCount + 2) ∧
    ∃ flat nested, Rule.read options (joinTexts join gap gap' left right) = .ok flat ∧
      Rule.read options (joinTexts join gap gap' left (inParens right)) = .ok nested ∧
      nested.tree = flat.tree ∧ flat.nodeCount = a.nodeCount + r.nodeCount + 1 ∧
      nested.nodeCount = flat.nodeCount + 1 := by
  obtain ⟨p, hp⟩ := read_eq_ok_iff.mp hLeft
  obtain ⟨q, hq⟩ := read_eq_ok_iff.mp hRight
  subst hNow
  rw [hp.means.conditionCount_eq, hq.means.conditionCount_eq] at hCount
  have hpDepth : p.depth ≤ depth := hp.depth_le
  have hqDepth : q.depth ≤ depth := hq.depth_le
  have hpParens := wordsOf_inParens hp.words_eq
  have hqParens := wordsOf_inParens hq.words_eq
  have hJoin {p q : Phrase .chain} {left right : String} (hp : wordsOf left = .ok p.words)
      (hq : wordsOf right = .ok q.words) := wordsOf_joinTexts join hp hq hGap hGap'
  obtain ⟨tree, hTree⟩ := Phrase.exists_means_andThen hp.means join r.tree
  have hParens : Rule.read options (inParens left) = _ :=
    read_of_words hpParens hp.means (by simp only [Phrase.depth]; omega)
      (by simp only [Phrase.conditions]; omega)
  have hGroup : Rule.read options (joinTexts join gap gap' (inParens left) right) = _ :=
    read_of_words (hJoin hpParens hq.words_eq) ⟨_, _, hp.means, hq.means, rfl⟩
      (by simp only [Phrase.depth_andThen, Phrase.depth]; omega)
      (by simpa only [Phrase.conditions_andThen, Phrase.conditions, List.length_append])
  have hFlat : Rule.read options (joinTexts join gap gap' left right) = _ :=
    read_of_words (hJoin hp.words_eq hq.words_eq) (hTree q hq.means)
      (by simp only [Phrase.depth_andThen]; omega)
      (by simpa only [Phrase.conditions_andThen, List.length_append])
  have hNested : Rule.read options (joinTexts join gap gap' left (inParens right)) = _ :=
    read_of_words (hJoin hp.words_eq hqParens) (hTree (.single (.group q)) hq.means)
      (by simp only [Phrase.depth_andThen, Phrase.depth]; omega)
      (by simpa only [Phrase.conditions_andThen, Phrase.conditions, List.length_append])
  rw [hp.nodeCount_eq, hq.nodeCount_eq]
  refine ⟨⟨_, hParens, rfl, rfl⟩, ⟨_, hGroup, rfl, ?_⟩, _, _, hFlat, hNested, rfl, ?_, ?_⟩
  · simp only [Phrase.nodeCount_andThen, Phrase.nodeCount]
    omega
  · exact p.nodeCount_andThen join q
  · simp only [Phrase.nodeCount_andThen, Phrase.nodeCount]
    omega

end Composition

theorem read_compose_sample :
    let text := "likes > 3 && (retweets == 5 || likes < 9)"
    let options : Options := { now := .epoch, maxDepth := 65, maxConditions := 2048 }
    ∃ rule, Rule.read { now := .epoch } text = .ok rule ∧
      rule.tree.conditionCount + rule.tree.conditionCount ≤ 2048 ∧
      (∃ whole, Rule.read options (inParens text) = .ok whole ∧ whole.tree = rule.tree ∧
        whole.nodeCount = rule.nodeCount + 1) ∧
      (∃ whole, Rule.read options (joinTexts .or " " " " (inParens text) text) = .ok whole ∧
        whole.tree = .join .or rule.tree rule.tree ∧
        whole.nodeCount = rule.nodeCount + rule.nodeCount + 2) ∧
      ∃ flat nested, Rule.read options (joinTexts .or " " " " text text) = .ok flat ∧
        Rule.read options (joinTexts .or " " " " text (inParens text)) = .ok nested ∧
        nested.tree = flat.tree ∧ flat.nodeCount = rule.nodeCount + rule.nodeCount + 1 ∧
        nested.nodeCount = flat.nodeCount + 1 := by
  intro text options
  obtain ⟨rule, hRead⟩ := exists_read_sample
  have hCount : rule.tree.conditionCount ≤ 1024 := conditionCount_le_of_read hRead
  have hSum : rule.tree.conditionCount + rule.tree.conditionCount ≤ 2048 := by omega
  have hGap : ∀ c ∈ " ".toList, isBlank c = true := List.forall_mem_singleton.mpr rfl
  exact ⟨rule, hRead, hSum,
    read_compose .or hRead hRead rfl (Nat.le_refl 65) hSum hGap hGap⟩

end PostSieve.Rule
