import PostSieve.Proofs.Scanning
import PostSieve.Rule.Tree

/-! The grammar of rules, as a relation on kinds of words and as a type of phrases. A phrase is an
operand or a chain of them; its words determine it. -/

namespace PostSieve.Rule

/-- The two categories of the grammar: operands, and chains of operands with joins between them. -/
inductive Level
  | operand | chain
deriving DecidableEq

/-- The sequences of kinds that form an operand or a chain. -/
inductive Derives : Level → List TokenKind → Prop
  | condition {op literal : TokenKind} : op.isOperator = true → literal.isLiteral = true →
      Derives .operand [.name, op, literal]
  | group {kinds : List TokenKind} : Derives .chain kinds →
      Derives .operand (.openParen :: (kinds ++ [.closeParen]))
  | single {kinds : List TokenKind} : Derives .operand kinds → Derives .chain kinds
  | joined {first rest : List TokenKind} {join : TokenKind} : Derives .operand first →
      join.isLogical = true → Derives .chain rest → Derives .chain (first ++ join :: rest)

/-! ### Phrases -/

/-- The word that a symbol is. -/
def Word.symbol (kind : TokenKind) : Word := ⟨kind, kind.text⟩

@[simp] theorem Word.symbol_kind (kind : TokenKind) : (symbol kind).kind = kind := rfl

theorem Word.IsLexical.eq_symbol {word : Word} (h : word.IsLexical) {kind : TokenKind}
    (hKind : word.kind = kind) (hSymbol : kind.isSymbol = true) : word = symbol kind := by
  obtain ⟨_, value⟩ := word
  obtain rfl : _ = kind := hKind
  rw [symbol, Word.mk.injEq]
  exact ⟨rfl, String.toList_injective ((TokenKind.language_symbol hSymbol).mp h)⟩

theorem Word.isLexical_symbol {kind : TokenKind} (h : kind.isSymbol = true) :
    (symbol kind).IsLexical := (TokenKind.language_symbol h).mpr rfl

theorem TokenKind.isSymbol_of_isOperator {kind : TokenKind} (h : kind.isOperator = true) :
    kind.isSymbol = true := by
  cases kind <;> first | rfl | cases h

/-- A name, an operator and a literal, in this order. -/
structure Condition where
  name : String
  op : TokenKind
  literal : Word
  isOperator : op.isOperator = true
  isLiteral : literal.kind.isLiteral = true
deriving DecidableEq

namespace Condition

/-- The words that a condition is written with. -/
def words (c : Condition) : List Word := [⟨.name, c.name⟩, .symbol c.op, c.literal]

/-- Whether the name and the literal are tokens of their kinds. -/
def IsLexical (c : Condition) : Prop := Word.IsLexical ⟨.name, c.name⟩ ∧ c.literal.IsLexical

theorem isLexical_iff {c : Condition} : c.IsLexical ↔ ∀ word ∈ c.words, word.IsLexical := by
  have hOp := Word.isLexical_symbol (TokenKind.isSymbol_of_isOperator c.isOperator)
  simp [IsLexical, words, hOp]

end Condition

def Join.token : Join → TokenKind
  | and => .and
  | or => .or

theorem Join.isSymbol_token (join : Join) : join.token.isSymbol = true := by cases join <;> rfl

theorem Join.ofToken?_eq_some_iff {kind : TokenKind} {join : Join} :
    Join.ofToken? kind = some join ↔ kind = join.token := by
  cases kind <;> cases join <;> simp [ofToken?, token]

theorem Join.isLogical_iff {kind : TokenKind} :
    kind.isLogical = true ↔ ∃ join : Join, kind = join.token := by
  constructor
  · intro h
    cases kind <;> first | exact ⟨.and, rfl⟩ | exact ⟨.or, rfl⟩ | cases h
  · rintro ⟨_ | _, rfl⟩ <;> rfl

/-- What the words of a rule say: conditions, groups in parentheses, and chains of them. -/
inductive Phrase : Level → Type
  | condition (c : Condition) : Phrase .operand
  | group (inner : Phrase .chain) : Phrase .operand
  | single (operand : Phrase .operand) : Phrase .chain
  | joined (first : Phrase .operand) (join : Join) (rest : Phrase .chain) : Phrase .chain

namespace Phrase

/-- The words that a phrase is written with. -/
def words : {level : Level} → Phrase level → List Word
  | _, condition c => c.words
  | _, group inner => .symbol .openParen :: (inner.words ++ [.symbol .closeParen])
  | _, single operand => operand.words
  | _, joined first join rest => first.words ++ .symbol join.token :: rest.words

/-- The conditions of a phrase, from left to right. -/
def conditions : {level : Level} → Phrase level → List Condition
  | _, condition c => [c]
  | _, group inner => inner.conditions
  | _, single operand => operand.conditions
  | _, joined first _ rest => first.conditions ++ rest.conditions

/-- The number of groups that lie within one another. -/
def depth : {level : Level} → Phrase level → Nat
  | _, condition _ => 0
  | _, group inner => inner.depth + 1
  | _, single operand => operand.depth
  | _, joined first _ rest => max first.depth rest.depth

/-- The number of conditions, groups and joins. -/
def nodeCount : {level : Level} → Phrase level → Nat
  | _, condition _ => 1
  | _, group inner => inner.nodeCount + 1
  | _, single operand => operand.nodeCount
  | _, joined first _ rest => first.nodeCount + rest.nodeCount + 1

variable {level : Level}

/-- A phrase is written with words that the grammar admits. -/
theorem derives (p : Phrase level) : Derives level (p.words.map Word.kind) := by
  induction p with
  | condition c => exact .condition c.isOperator c.isLiteral
  | group inner ih =>
    rw [words, List.map_cons, List.map_append]
    exact .group ih
  | single operand ih => exact .single ih
  | joined first join rest ihFirst ihRest =>
    rw [words, List.map_append, List.map_cons]
    exact .joined ihFirst (Join.isLogical_iff.mpr ⟨join, rfl⟩) ihRest

/-- The words of a phrase are tokens of their kinds exactly if those of its conditions are. -/
theorem isLexical_words_iff {p : Phrase level} :
    (∀ word ∈ p.words, word.IsLexical) ↔ ∀ c ∈ p.conditions, c.IsLexical := by
  induction p with
  | condition c => simp [words, conditions, Condition.isLexical_iff]
  | group inner ih =>
    have hOpen := @Word.isLexical_symbol .openParen rfl
    have hClose := @Word.isLexical_symbol .closeParen rfl
    simp [words, conditions, ← ih, hOpen, hClose, or_imp, forall_and]
  | single operand ih => exact ih
  | joined first join rest ihFirst ihRest =>
    have hJoin := Word.isLexical_symbol join.isSymbol_token
    simp [words, conditions, or_imp, forall_and, ← ihFirst, ← ihRest, hJoin]

/-- No join stands at the front of the words. -/
def NoJoin (words : List Word) : Prop := ∀ word ∈ words.head?, Join.ofToken? word.kind = none

theorem noJoin_nil : NoJoin [] := fun _ h => nomatch h

theorem noJoin_closeParen (words : List Word) : NoJoin (.symbol .closeParen :: words) := by
  rintro _ ⟨⟩
  rfl

theorem not_noJoin {join : Join} {words : List Word} :
    ¬ NoJoin (.symbol join.token :: words) := by
  intro h
  have := h _ rfl
  cases join <;> cases this

/-- A phrase is the only one at the front of its words; a chain is, if no join comes next. -/
theorem words_append_inj (p q : Phrase level) {r s : List Word}
    (hr : level = .chain → NoJoin r) (hs : level = .chain → NoJoin s)
    (h : p.words ++ r = q.words ++ s) : p = q ∧ r = s := by
  induction p generalizing r s with
  | condition c =>
    cases q with
    | condition c' =>
      obtain ⟨_, _, _, _, _⟩ := c
      obtain ⟨_, _, _, _, _⟩ := c'
      simp only [words, Condition.words, Word.symbol, List.cons_append, List.nil_append,
        List.cons.injEq, Word.mk.injEq, true_and] at h
      obtain ⟨rfl, ⟨rfl, -⟩, rfl, rfl⟩ := h
      exact ⟨rfl, rfl⟩
    | group inner' => simp [words, Condition.words, Word.symbol] at h
  | group inner ih =>
    cases q with
    | condition c' => simp [words, Condition.words, Word.symbol] at h
    | group inner' =>
      simp only [words, List.cons_append, List.append_assoc, List.cons.injEq, true_and,
        List.nil_append] at h
      obtain ⟨rfl, hRest⟩ :=
        ih inner' (fun _ => noJoin_closeParen r) (fun _ => noJoin_closeParen s) h
      exact ⟨rfl, (List.cons.inj hRest).2⟩
  | single operand ih =>
    cases q with
    | single operand' =>
      obtain ⟨rfl, rfl⟩ := ih operand' nofun nofun h
      exact ⟨rfl, rfl⟩
    | joined first' join' rest' =>
      -- The words behind the operand would begin with a join.
      rw [words, words, List.append_assoc] at h
      obtain ⟨-, rfl⟩ := ih first' nofun nofun h
      exact absurd (hr rfl) not_noJoin
  | joined first join rest ihFirst ihRest =>
    cases q with
    | single operand' =>
      rw [words, words, List.append_assoc] at h
      obtain ⟨-, rfl⟩ := ihFirst operand' nofun nofun h
      exact absurd (hs rfl) not_noJoin
    | joined first' join' rest' =>
      rw [words, words, List.append_assoc, List.append_assoc] at h
      obtain ⟨rfl, hTail⟩ := ihFirst first' nofun nofun h
      rw [List.cons_append, List.cons_append, List.cons.injEq] at hTail
      obtain ⟨rfl, rfl⟩ := ihRest rest' hr hs hTail.2
      obtain rfl : join = join' := by
        have := congrArg Word.kind hTail.1
        cases join <;> cases join' <;> first | rfl | cases this
      exact ⟨rfl, rfl⟩

/-- The words of a chain determine it. -/
theorem words_injective {p q : Phrase .chain} (h : p.words = q.words) : p = q := by
  refine (words_append_inj p q (fun _ => noJoin_nil) (fun _ => noJoin_nil) ?_).1
  rw [h]

end Phrase

/-- Words that the grammar admits are those of a phrase. -/
theorem Derives.exists_phrase {level : Level} {kinds : List TokenKind} (h : Derives level kinds)
    {words : List Word} (hLexical : ∀ word ∈ words, word.IsLexical)
    (hKinds : words.map Word.kind = kinds) : ∃ p : Phrase level, p.words = words := by
  induction h generalizing words with
  | @condition op literal hOp hLiteral =>
    match words, hKinds with
    | [⟨_, name⟩, opWord, literalWord], hKinds =>
      simp only [List.map_cons, List.map_nil, List.cons.injEq, and_true] at hKinds
      obtain ⟨rfl, rfl, rfl⟩ := hKinds
      have hOpWord := (hLexical opWord (by simp)).eq_symbol rfl
        (TokenKind.isSymbol_of_isOperator hOp)
      refine ⟨.condition ⟨name, opWord.kind, literalWord, hOp, hLiteral⟩, ?_⟩
      simp [Phrase.words, Condition.words, ← hOpWord]
  | group _ ih =>
    obtain ⟨opened, words, rfl, hOpened, hWords⟩ := List.map_eq_cons_iff.mp hKinds
    obtain ⟨words, _, rfl, hInner, hLast⟩ := List.map_eq_append_iff.mp hWords
    obtain ⟨closed, rfl, hClosed⟩ := List.map_eq_singleton_iff.mp hLast
    obtain ⟨inner, rfl⟩ := ih (fun word h => hLexical word (by simp [h])) hInner
    rw [(hLexical opened (by simp)).eq_symbol hOpened rfl,
      (hLexical closed (by simp)).eq_symbol hClosed rfl]
    exact ⟨.group inner, rfl⟩
  | single _ ih =>
    obtain ⟨operand, rfl⟩ := ih hLexical hKinds
    exact ⟨.single operand, rfl⟩
  | joined _ hJoin _ ihFirst ihRest =>
    obtain ⟨words, _, rfl, hFirst, hWords⟩ := List.map_eq_append_iff.mp hKinds
    obtain ⟨joinWord, words, rfl, hWord, hRest⟩ := List.map_eq_cons_iff.mp hWords
    obtain ⟨first, rfl⟩ := ihFirst (fun word h => hLexical word (by simp [h])) hFirst
    obtain ⟨rest, rfl⟩ := ihRest (fun word h => hLexical word (by simp [h])) hRest
    obtain ⟨join, rfl⟩ := Join.isLogical_iff.mp hJoin
    rw [(hLexical joinWord (by simp)).eq_symbol hWord join.isSymbol_token]
    exact ⟨.joined first join rest, rfl⟩

/-! ### Parts and nesting of a sequence of words -/

/-- What the words of a rule say besides how they are grouped. -/
inductive Part
  | condition (c : Condition)
  | join (join : Join)
deriving DecidableEq

def Part.condition? : Part → Option Condition
  | condition c => some c
  | join _ => none

/-- The condition at the front of the words. -/
def leadingCondition? : List Word → Option Condition
  | name :: op :: literal :: _ =>
    if h : name.kind = .name ∧ op.kind.isOperator = true ∧ literal.kind.isLiteral = true then
      some ⟨name.value, op.kind, literal, h.2.1, h.2.2⟩
    else none
  | _ => none

/-- All conditions and joins in a sequence of words, in order. -/
def partsIn : List Word → List Part
  | [] => []
  | word :: words =>
    match leadingCondition? (word :: words), Join.ofToken? word.kind with
    | some c, _ => .condition c :: partsIn words
    | none, some join => .join join :: partsIn words
    | none, none => partsIn words

/-- All conditions in a sequence of words, in order. -/
def conditionsIn (words : List Word) : List Condition := (partsIn words).filterMap Part.condition?

/-- The number of parentheses open after one more word of a kind. -/
def TokenKind.openedAfter (opened : Nat) : TokenKind → Nat
  | openParen => opened + 1
  | closeParen => opened - 1
  | _ => opened

/-- The greatest number of parentheses open at once, `opened` being open before. -/
def nesting (opened : Nat) : List TokenKind → Nat
  | [] => opened
  | kind :: kinds => max opened (nesting (kind.openedAfter opened) kinds)

theorem le_nesting (opened : Nat) : ∀ kinds : List TokenKind, opened ≤ nesting opened kinds
  | [] => Nat.le_refl opened
  | _ :: _ => Nat.le_max_left _ _

theorem leadingCondition?_eq_none {word : Word} (h : word.kind ≠ .name) (words : List Word) :
    leadingCondition? (word :: words) = none := by
  match words with
  | [] | [_] => rfl
  | _ :: _ :: _ => simp [leadingCondition?, h]

theorem partsIn_join (join : Join) (words : List Word) :
    partsIn (.symbol join.token :: words) = .join join :: partsIn words := by
  have hName : (Word.symbol join.token).kind ≠ .name := by cases join <;> decide
  have hJoin : Join.ofToken? (Word.symbol join.token).kind = some join :=
    Join.ofToken?_eq_some_iff.mpr rfl
  rw [partsIn, leadingCondition?_eq_none hName, hJoin]

theorem partsIn_other {word : Word} (hName : word.kind ≠ .name)
    (hJoin : Join.ofToken? word.kind = none) (words : List Word) :
    partsIn (word :: words) = partsIn words := by
  rw [partsIn, leadingCondition?_eq_none hName, hJoin]

namespace TokenKind

theorem ne_name_of_isOperator {kind : TokenKind} (h : kind.isOperator = true) : kind ≠ name := by
  rintro rfl
  cases h

theorem ne_name_of_isLiteral {kind : TokenKind} (h : kind.isLiteral = true) : kind ≠ name := by
  rintro rfl
  cases h

theorem ofToken?_of_isOperator {kind : TokenKind} (h : kind.isOperator = true) :
    Join.ofToken? kind = none := by
  cases kind <;> first | rfl | cases h

theorem ofToken?_of_isLiteral {kind : TokenKind} (h : kind.isLiteral = true) :
    Join.ofToken? kind = none := by
  cases kind <;> first | rfl | cases h

theorem openedAfter_of_isOperator {kind : TokenKind} (h : kind.isOperator = true)
    (opened : Nat) : kind.openedAfter opened = opened := by
  cases kind <;> first | rfl | cases h

theorem openedAfter_of_isLiteral {kind : TokenKind} (h : kind.isLiteral = true)
    (opened : Nat) : kind.openedAfter opened = opened := by
  cases kind <;> first | rfl | cases h

end TokenKind

namespace Condition

theorem partsIn_words (c : Condition) (rest : List Word) :
    partsIn (c.words ++ rest) = .condition c :: partsIn rest := by
  obtain ⟨name, op, literal, hOp, hLiteral⟩ := c
  have hLeading : leadingCondition? (⟨.name, name⟩ :: .symbol op :: literal :: rest) =
      some ⟨name, op, literal, hOp, hLiteral⟩ := by
    simp [leadingCondition?, hOp, hLiteral]
  rw [words, List.cons_append, List.cons_append, List.cons_append, List.nil_append, partsIn,
    hLeading, partsIn_other (TokenKind.ne_name_of_isOperator hOp)
      (TokenKind.ofToken?_of_isOperator hOp),
    partsIn_other (TokenKind.ne_name_of_isLiteral hLiteral)
      (TokenKind.ofToken?_of_isLiteral hLiteral)]

theorem nesting_words (c : Condition) (opened : Nat) (rest : List TokenKind) :
    nesting opened (c.words.map Word.kind ++ rest) = nesting opened rest := by
  have hName : TokenKind.name.openedAfter opened = opened := rfl
  simp [words, nesting, hName, TokenKind.openedAfter_of_isOperator c.isOperator,
    TokenKind.openedAfter_of_isLiteral c.isLiteral, le_nesting]

end Condition

namespace Phrase

/-- The conditions and joins of a phrase, from left to right. -/
def parts : {level : Level} → Phrase level → List Part
  | _, condition c => [.condition c]
  | _, group inner => inner.parts
  | _, single operand => operand.parts
  | _, joined first join rest => first.parts ++ .join join :: rest.parts

variable {level : Level}

/-- The parts found in the words of a phrase are its own. -/
theorem partsIn_words (p : Phrase level) (rest : List Word) :
    partsIn (p.words ++ rest) = p.parts ++ partsIn rest := by
  induction p generalizing rest with
  | condition c => exact c.partsIn_words rest
  | group inner ih =>
    rw [words, List.cons_append, List.append_assoc, partsIn_other (by decide) rfl, ih,
      List.cons_append, partsIn_other (by decide) rfl]
    rfl
  | single operand ih => exact ih rest
  | joined first join rest ihFirst ihRest =>
    rw [words, List.append_assoc, List.cons_append, ihFirst, partsIn_join, ihRest, parts,
      List.append_assoc, List.cons_append]

theorem filterMap_parts (p : Phrase level) : p.parts.filterMap Part.condition? = p.conditions := by
  induction p with
  | condition c => rfl
  | group inner ih => exact ih
  | single operand ih => exact ih
  | joined first join rest ihFirst ihRest =>
    rw [parts, List.filterMap_append, ihFirst, List.filterMap_cons, Part.condition?, ihRest,
      conditions]

theorem partsIn_eq (p : Phrase level) : partsIn p.words = p.parts := by
  have h := p.partsIn_words []
  rwa [List.append_nil, partsIn, List.append_nil] at h

theorem conditionsIn_eq (p : Phrase level) : conditionsIn p.words = p.conditions := by
  rw [conditionsIn, partsIn_eq, filterMap_parts]

/-- The parentheses open within a phrase are those open before it and those of its depth. -/
theorem nesting_words (p : Phrase level) (opened : Nat) (rest : List TokenKind) :
    nesting opened (p.words.map Word.kind ++ rest) =
      max (opened + p.depth) (nesting opened rest) := by
  induction p generalizing opened rest with
  | condition c => rw [words, c.nesting_words, depth, Nat.add_zero, max_eq_right (le_nesting _ _)]
  | group inner ih =>
    simp only [words, depth, List.map_cons, List.map_append, List.map_nil, List.cons_append,
      List.append_assoc, List.nil_append, Word.symbol_kind, nesting, TokenKind.openedAfter, ih,
      Nat.add_sub_cancel]
    have := le_nesting opened rest
    omega
  | single operand ih => exact ih opened rest
  | joined first join others ihFirst ihRest =>
    have hJoin : join.token.openedAfter opened = opened := by cases join <;> rfl
    simp only [words, depth, List.map_append, List.map_cons, List.append_assoc, List.cons_append,
      Word.symbol_kind, nesting, ihFirst, ihRest, hJoin]
    omega

theorem nesting_eq (p : Phrase level) : nesting 0 (p.words.map Word.kind) = p.depth := by
  have h := p.nesting_words 0 []
  rwa [List.append_nil, nesting, Nat.zero_add, Nat.max_zero] at h

end Phrase

end PostSieve.Rule
