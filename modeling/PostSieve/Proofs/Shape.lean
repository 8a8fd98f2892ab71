import PostSieve.Proofs.Acceptance

/-! The shape of a rule's tree: chains grouped to the right without precedence, groups in the place
of operands, and all conditions and joins of the text in their order. -/

namespace PostSieve.Rule

open Calendar (Instant)

/-! ### The order of the nodes -/

/-- What a tree consists of: conditions with their tests, and joins. -/
inductive Node
  | condition (field : Field) (op : TokenKind) (criteria : Criteria)
  | join (op : Join)
deriving DecidableEq

/-- The nodes of a tree, each join behind its left part and in front of its right part. -/
def Tree.inorder : Tree → List Node
  | condition field op criteria => [.condition field op criteria]
  | join op left right => left.inorder ++ .join op :: right.inorder

/-- Whether a part of a text stands for a node. -/
def Part.Means (now : Instant) : Part → Node → Prop
  | condition c, .condition field op criteria => c.Means now (.condition field op criteria)
  | join op, .join op' => op = op'
  | _, _ => False

/-- The nodes of the tree of a phrase are what its parts stand for, in the same order. -/
theorem Phrase.forall₂_inorder {level : Level} {p : Phrase level} {now : Instant} {tree : Tree}
    (h : p.Means now tree) : List.Forall₂ (Part.Means now) p.parts tree.inorder := by
  induction p generalizing tree with
  | condition c =>
    obtain ⟨field, criteria, hField, hOp, hLiteral, hCriteria, rfl⟩ := h
    refine .cons ?_ .nil
    exact ⟨field, criteria, hField, hOp, hLiteral, hCriteria, rfl⟩
  | group inner ih => exact ih h
  | single operand ih => exact ih h
  | joined first join rest ihFirst ihRest =>
    obtain ⟨left, right, hLeft, hRight, rfl⟩ := h
    rw [parts, Tree.inorder]
    exact List.rel_append (ihFirst hLeft) (.cons rfl (ihRest hRight))

/-! ### The tree of a chain -/

/-- The tree of operands with joins between them: a join takes all that follows it on its right,
whichever join it is. -/
def Tree.chain (first : Tree) : List (Join × Tree) → Tree
  | [] => first
  | (op, next) :: rest => .join op first (next.chain rest)

/-- A join and the operand behind it, with the words and the tree of the operand. -/
structure Link where
  join : Join
  words : List Word
  tree : Tree

namespace Link

/-- The words of a join and its operand. -/
def allWords (link : Link) : List Word := .symbol link.join.token :: link.words

/-- A join and the tree of its operand. -/
def branch (link : Link) : Join × Tree := (link.join, link.tree)

end Link

/-- How words are read as trees: an operand is a condition, or a chain in parentheses; a chain is
an operand and any number of links, at one level of parentheses. -/
inductive IsReading (now : Instant) : Level → List Word → Tree → Prop
  | condition {c : Condition} {tree : Tree} : c.Means now tree →
      IsReading now .operand c.words tree
  | group {words : List Word} {tree : Tree} : IsReading now .chain words tree →
      IsReading now .operand (.symbol .openParen :: (words ++ [.symbol .closeParen])) tree
  | chain {words : List Word} {tree : Tree} {links : List Link} :
      IsReading now .operand words tree →
      (∀ link ∈ links, IsReading now .operand link.words link.tree) →
      IsReading now .chain (words ++ links.flatMap Link.allWords)
        (tree.chain (links.map Link.branch))

variable {now : Instant} {level : Level} {words words' : List Word} {tree tree' : Tree}

namespace IsReading

theorem single (h : IsReading now .operand words tree) : IsReading now .chain words tree := by
  have hChain := IsReading.chain h (List.forall_mem_nil _)
  rwa [List.flatMap_nil, List.append_nil] at hChain

theorem joined (join : Join) (h : IsReading now .operand words tree)
    (h' : IsReading now .chain words' tree') :
    IsReading now .chain (words ++ .symbol join.token :: words') (.join join tree tree') := by
  cases h' with
  | @chain next nextTree links hNext hLinks =>
    let link : Link := ⟨join, next, nextTree⟩
    exact IsReading.chain h (List.forall_mem_cons (a := link).mpr ⟨hNext, hLinks⟩)

end IsReading

/-- The tree that a phrase means is a reading of its words. -/
theorem Phrase.isReading {p : Phrase level} (h : p.Means now tree) :
    IsReading now level p.words tree := by
  induction p generalizing tree with
  | condition c => exact .condition h
  | group inner ih => exact .group (ih h)
  | single operand ih => exact (ih h).single
  | joined first join rest ihFirst ihRest =>
    obtain ⟨left, right, hLeft, hRight, rfl⟩ := h
    exact (ihFirst hLeft).joined join (ihRest hRight)

theorem exists_phrase_of_links {links : List Link}
    (h : ∃ p : Phrase .operand, p.words = words ∧ p.Means now tree)
    (hLinks : ∀ link ∈ links, ∃ p : Phrase .operand, p.words = link.words ∧
      p.Means now link.tree) :
    ∃ p : Phrase .chain, p.words = words ++ links.flatMap Link.allWords ∧
      p.Means now (tree.chain (links.map Link.branch)) := by
  obtain ⟨first, rfl, hFirst⟩ := h
  induction links generalizing first tree with
  | nil => exact ⟨.single first, (List.append_nil _).symm, hFirst⟩
  | cons link links ih =>
    rw [List.forall_mem_cons] at hLinks
    obtain ⟨⟨next, hNextWords, hNext⟩, hLinks⟩ := hLinks
    obtain ⟨rest, hRestWords, hRest⟩ := ih hLinks next hNext
    refine ⟨.joined first link.join rest, ?_, _, _, hFirst, hRest, rfl⟩
    rw [Phrase.words, hRestWords, hNextWords]
    rfl

/-- A reading of words is that of a phrase. -/
theorem IsReading.exists_phrase (h : IsReading now level words tree) :
    ∃ p : Phrase level, p.words = words ∧ p.Means now tree := by
  induction h with
  | @condition c tree hMeans => exact ⟨.condition c, rfl, hMeans⟩
  | group _ ih =>
    obtain ⟨inner, rfl, hMeans⟩ := ih
    exact ⟨.group inner, rfl, hMeans⟩
  | chain _ _ ihFirst ihLinks => exact exists_phrase_of_links ihFirst ihLinks

/-- Words have at most one reading as a whole rule. -/
theorem IsReading.unique (h : IsReading now .chain words tree)
    (h' : IsReading now .chain words tree') : tree = tree' := by
  obtain ⟨p, rfl, hMeans⟩ := h.exists_phrase
  obtain ⟨q, hWords, hMeans'⟩ := h'.exists_phrase
  rw [Phrase.words_injective hWords] at hMeans'
  exact hMeans.unique hMeans'

/-- The tree of a rule is the only reading of its text, and it holds the conditions and joins of
the text in their order. -/
theorem read_isReading {options : Options} {text : String} {rule : Rule}
    (h : Rule.read options text = .ok rule) :
    ∃ words, wordsOf text = .ok words ∧ IsReading options.now .chain words rule.tree ∧
      (∀ tree, IsReading options.now .chain words tree → tree = rule.tree) ∧
      List.Forall₂ (Part.Means options.now) (partsIn words) rule.tree.inorder := by
  obtain ⟨p, hp⟩ := read_eq_ok_iff.mp h
  have hReading := Phrase.isReading hp.means
  refine ⟨p.words, hp.words_eq, hReading, fun tree hTree => hTree.unique hReading, ?_⟩
  rw [p.partsIn_eq]
  exact Phrase.forall₂_inorder hp.means

theorem read_isReading_sample : ∃ rule,
    Rule.read { now := .epoch } "likes > 3 && (retweets == 5 || likes < 9)" = .ok rule ∧
      ∃ words, wordsOf "likes > 3 && (retweets == 5 || likes < 9)" = .ok words ∧
        IsReading .epoch .chain words rule.tree ∧
        (∀ tree, IsReading .epoch .chain words tree → tree = rule.tree) ∧
        List.Forall₂ (Part.Means .epoch) (partsIn words) rule.tree.inorder := by
  obtain ⟨rule, hRead⟩ := exists_read_sample
  exact ⟨rule, hRead, read_isReading hRead⟩

end PostSieve.Rule
