import Mathlib.Data.List.Induction
import PostSieve.Proofs.Grammar

/-! Places in a rule: what the grammar calls for behind some words, and how many parentheses are
open there. Words lead to a place exactly if a rule can begin with them, and to the last place
exactly if they are a rule. -/

namespace PostSieve.Rule

/-- What the grammar calls for. Behind an operand, that is a join, a closing parenthesis or the
end. -/
inductive Stage
  | operand | operator | literal | join
deriving DecidableEq, Repr

/-- What the grammar calls for, and the number of parentheses open. -/
structure Place where
  stage : Stage
  opened : Nat
deriving DecidableEq, Repr

namespace Place

/-- The place in front of a rule. -/
def start : Place := ⟨.operand, 0⟩

/-- The place behind a rule. -/
def finish : Place := ⟨.join, 0⟩

/-- The place behind one more word, if the grammar admits it. -/
def next (place : Place) (kind : TokenKind) : Option Place :=
  match place.stage, kind with
  | .operand, .openParen => some ⟨.operand, place.opened + 1⟩
  | .operand, .name => some ⟨.operator, place.opened⟩
  | .operand, _ => none
  | .operator, _ => if kind.isOperator then some ⟨.literal, place.opened⟩ else none
  | .literal, _ => if kind.isLiteral then some ⟨.join, place.opened⟩ else none
  | .join, .closeParen => if place.opened = 0 then none else some ⟨.join, place.opened - 1⟩
  | .join, _ => if kind.isLogical then some ⟨.operand, place.opened⟩ else none

/-- The place behind some words, if the grammar admits them. -/
def after (place : Place) (kinds : List TokenKind) : Option Place := kinds.foldlM next place

/-- Whether the grammar admits a kind at a place. The end of the text is admitted behind a rule. -/
def Admits (place : Place) (kind : TokenKind) : Prop :=
  (place.next kind).isSome = true ∨ kind = .endOfText ∧ place = finish

/-- The steps from place to place. -/
inductive Step : Place → TokenKind → Place → Prop
  | openParen {opened : Nat} : Step ⟨.operand, opened⟩ .openParen ⟨.operand, opened + 1⟩
  | name {opened : Nat} : Step ⟨.operand, opened⟩ .name ⟨.operator, opened⟩
  | operator {opened : Nat} {kind : TokenKind} : kind.isOperator = true →
      Step ⟨.operator, opened⟩ kind ⟨.literal, opened⟩
  | literal {opened : Nat} {kind : TokenKind} : kind.isLiteral = true →
      Step ⟨.literal, opened⟩ kind ⟨.join, opened⟩
  | closeParen {opened : Nat} : Step ⟨.join, opened + 1⟩ .closeParen ⟨.join, opened⟩
  | join {opened : Nat} {kind : TokenKind} : kind.isLogical = true →
      Step ⟨.join, opened⟩ kind ⟨.operand, opened⟩

variable {place place' : Place} {kind : TokenKind} {kinds : List TokenKind}

theorem next_eq_some_iff : place.next kind = some place' ↔ Step place kind place' := by
  constructor
  · intro h
    obtain ⟨stage, opened⟩ := place
    cases stage with
    | operand =>
      cases kind with
      | openParen => cases h; exact .openParen
      | name => cases h; exact .name
      | _ => cases h
    | operator =>
      obtain ⟨hKind, rfl⟩ := Option.ite_none_right_eq_some.mp h |>.imp_right Option.some.inj
      exact .operator hKind
    | literal =>
      obtain ⟨hKind, rfl⟩ := Option.ite_none_right_eq_some.mp h |>.imp_right Option.some.inj
      exact .literal hKind
    | join =>
      cases kind with
      | closeParen =>
        cases opened with
        | zero => cases h
        | succ opened => cases h; exact .closeParen
      | and => cases h; exact .join rfl
      | or => cases h; exact .join rfl
      | _ => cases h
  · intro h
    cases h with
    | openParen => rfl
    | name => rfl
    | operator hKind => exact if_pos hKind
    | literal hKind => exact if_pos hKind
    | closeParen => rfl
    | join hKind => cases kind <;> first | rfl | cases hKind

theorem admits_iff : place.Admits kind ↔
    (∃ place', Step place kind place') ∨ kind = .endOfText ∧ place = finish := by
  rw [Admits, Option.isSome_iff_exists]
  exact or_congr_left (exists_congr fun _ => next_eq_some_iff)

@[simp] theorem after_nil : place.after [] = some place := rfl

theorem after_cons : place.after (kind :: kinds) = (place.next kind).bind (·.after kinds) := rfl

theorem after_append {kinds' : List TokenKind} :
    place.after (kinds ++ kinds') = (place.after kinds).bind (·.after kinds') :=
  List.foldlM_append

theorem after_cons_of_step (h : Step place kind place') :
    place.after (kind :: kinds) = place'.after kinds := by
  rw [after_cons, next_eq_some_iff.mpr h]
  rfl

theorem after_append_of_eq {kinds' : List TokenKind} (h : place.after kinds = some place') :
    place.after (kinds ++ kinds') = place'.after kinds' := by
  rw [after_append, h]
  rfl

theorem after_concat {kind : TokenKind} (h : place.after kinds = some place') :
    place.after (kinds ++ [kind]) = place'.next kind := by
  rw [after_append_of_eq h, after_cons]
  cases place'.next kind <;> rfl

/-- A step counts the parentheses that are open. -/
theorem Step.openedAfter_eq (h : Step place kind place') :
    kind.openedAfter place.opened = place'.opened := by
  cases h with
  | openParen => rfl
  | name => rfl
  | operator hKind => exact TokenKind.openedAfter_of_isOperator hKind _
  | literal hKind => exact TokenKind.openedAfter_of_isLiteral hKind _
  | closeParen => rfl
  | join hKind => cases kind <;> first | rfl | cases hKind

/-- A step behind which a parenthesis less is open closes one. -/
theorem Step.opened_add_count (h : Step place kind place') :
    place.opened + [kind].count .openParen = place'.opened + [kind].count .closeParen := by
  cases h with
  | openParen => rfl
  | name => rfl
  | operator hKind => cases kind <;> first | rfl | cases hKind
  | literal hKind => cases kind <;> first | rfl | cases hKind
  | closeParen => rfl
  | join hKind => cases kind <;> first | rfl | cases hKind

/-- What holds of a place is carried along all words that a rule admits behind it. -/
theorem after_induction {P : Place → List TokenKind → Prop} (hNil : P place [])
    (hStep : ∀ place₁ kinds kind place₂, P place₁ kinds → Step place₁ kind place₂ →
      P place₂ (kinds ++ [kind])) (h : place.after kinds = some place') : P place' kinds := by
  induction kinds using List.reverseRecOn generalizing place' with
  | nil =>
    cases h
    exact hNil
  | append_singleton kinds kind ih =>
    rw [after_append] at h
    obtain ⟨place₁, hKinds, hKind⟩ := Option.bind_eq_some_iff.mp h
    rw [after_cons] at hKind
    obtain ⟨_, hNext, ⟨⟩⟩ := Option.bind_eq_some_iff.mp hKind
    exact hStep _ _ _ _ (ih hKinds) (next_eq_some_iff.mp hNext)

/-- A place tells how many parentheses the words in front of it leave open. -/
theorem foldl_openedAfter (h : place.after kinds = some place') :
    kinds.foldl TokenKind.openedAfter place.opened = place'.opened := by
  refine after_induction (P := fun place₁ kinds =>
    kinds.foldl TokenKind.openedAfter place.opened = place₁.opened) rfl ?_ h
  intro place₁ kinds kind place₂ ih hStep
  rw [List.foldl_append, ih]
  exact hStep.openedAfter_eq

theorem opened_add_count (h : place.after kinds = some place') :
    place.opened + kinds.count .openParen = place'.opened + kinds.count .closeParen := by
  refine after_induction (P := fun place₁ kinds =>
    place.opened + kinds.count .openParen = place₁.opened + kinds.count .closeParen) rfl ?_ h
  intro place₁ kinds kind place₂ ih hStep
  have := hStep.opened_add_count
  rw [List.count_append, List.count_append]
  omega

end Place

open Place (Step start finish)

/-- Behind an operand and behind a chain the same parentheses are open as in front of it. -/
theorem Derives.after {level : Level} {kinds : List TokenKind} (h : Derives level kinds)
    (opened : Nat) : Place.after ⟨.operand, opened⟩ kinds = some ⟨.join, opened⟩ := by
  induction h generalizing opened with
  | condition hOp hLiteral =>
    rw [Place.after_cons_of_step .name, Place.after_cons_of_step (.operator hOp),
      Place.after_cons_of_step (.literal hLiteral), Place.after_nil]
  | group _ ih =>
    rw [Place.after_cons_of_step .openParen, Place.after_append_of_eq (ih _),
      Place.after_cons_of_step .closeParen, Place.after_nil]
  | single _ ih => exact ih opened
  | joined _ hJoin _ ihFirst ihRest =>
    rw [Place.after_append_of_eq (ihFirst _), Place.after_cons_of_step (.join hJoin), ihRest]

/-! ### What lies in front of a place -/

/-- The sequences of kinds that may stand in front of an operand, with the number of parentheses
that they leave open. -/
inductive Front : Nat → List TokenKind → Prop
  | nil : Front 0 []
  | group {opened : Nat} {kinds : List TokenKind} : Front opened kinds →
      Front (opened + 1) (kinds ++ [.openParen])
  | joined {opened : Nat} {kinds operand : List TokenKind} {join : TokenKind} :
      Front opened kinds → Derives .operand operand → join.isLogical = true →
      Front opened (kinds ++ (operand ++ [join]))

/-- The beginnings of an operand up to what is called for next. -/
inductive Begun : Stage → List TokenKind → Prop
  | operand : Begun .operand []
  | operator : Begun .operator [.name]
  | literal {op : TokenKind} : op.isOperator = true → Begun .literal [.name, op]
  | join {kinds : List TokenKind} : Derives .operand kinds → Begun .join kinds

namespace Front

variable {opened : Nat} {front chain : List TokenKind}

/-- A parenthesis closes the innermost group, which is an operand then. -/
theorem close (h : Front (opened + 1) front) (hChain : Derives .chain chain) :
    ∃ outer operand, Front opened outer ∧ Derives .operand operand ∧
      front ++ (chain ++ [.closeParen]) = outer ++ operand := by
  generalize hOpened : opened + 1 = n at h
  induction h generalizing chain with
  | nil => cases hOpened
  | @group _ outer hOuter _ =>
    cases hOpened
    exact ⟨outer, _, hOuter, .group hChain, by simp⟩
  | joined _ hOperand hJoin ih =>
    obtain ⟨outer, operand, hOuter, hDerives, hEq⟩ := ih (.joined hOperand hJoin hChain) hOpened
    exact ⟨outer, operand, hOuter, hDerives, by simpa using hEq⟩

/-- Where nothing is open, a chain completes a rule. -/
theorem finish (h : Front 0 front) (hChain : Derives .chain chain) :
    Derives .chain (front ++ chain) := by
  generalize hOpened : 0 = n at h
  induction h generalizing chain with
  | nil => exact hChain
  | group _ _ => cases hOpened
  | joined _ hOperand hJoin ih => simpa using ih (.joined hOperand hJoin hChain) hOpened

/-- A rule goes on behind every chain: what is open can be closed. -/
theorem exists_rest (h : Front opened front) (hChain : Derives .chain chain) :
    ∃ rest, Derives .chain (front ++ (chain ++ rest)) := by
  induction opened generalizing front chain with
  | zero => exact ⟨[], by simpa using h.finish hChain⟩
  | succ opened ih =>
    obtain ⟨outer, operand, hOuter, hOperand, hEq⟩ := h.close hChain
    obtain ⟨rest, hRest⟩ := ih hOuter (.single hOperand)
    refine ⟨.closeParen :: rest, ?_⟩
    have hSplit : front ++ (chain ++ .closeParen :: rest) =
        (front ++ (chain ++ [.closeParen])) ++ rest := by simp
    rwa [hSplit, hEq, List.append_assoc]

end Front

theorem Begun.exists_rest {stage : Stage} {begun : List TokenKind} (h : Begun stage begun) :
    ∃ rest, Derives .operand (begun ++ rest) := by
  cases h with
  | operand => exact ⟨[.name, .gt, .number], .condition rfl rfl⟩
  | operator => exact ⟨[.gt, .number], .condition rfl rfl⟩
  | literal hOp => exact ⟨[.number], .condition hOp rfl⟩
  | join hOperand => exact ⟨[], by rwa [List.append_nil]⟩

/-- A step keeps what lies in front of a place in order. -/
theorem Place.Step.front {place place' : Place} {kind : TokenKind} (h : Step place kind place')
    {front begun : List TokenKind} (hFront : Front place.opened front)
    (hBegun : Begun place.stage begun) : ∃ front' begun', Front place'.opened front' ∧
      Begun place'.stage begun' ∧ front ++ (begun ++ [kind]) = front' ++ begun' := by
  cases h with
  | openParen =>
    cases hBegun
    exact ⟨_, [], .group hFront, .operand, by simp⟩
  | name =>
    cases hBegun
    exact ⟨front, _, hFront, .operator, rfl⟩
  | operator hOp =>
    cases hBegun
    exact ⟨front, _, hFront, .literal hOp, rfl⟩
  | literal hLiteral =>
    cases hBegun with
    | literal hOp => exact ⟨front, _, hFront, .join (.condition hOp hLiteral), rfl⟩
  | closeParen =>
    cases hBegun with
    | join hOperand =>
      obtain ⟨outer, operand, hOuter, hGroup, hEq⟩ := hFront.close (.single hOperand)
      exact ⟨outer, operand, hOuter, .join hGroup, hEq⟩
  | join hJoin =>
    cases hBegun with
    | join hOperand => exact ⟨_, [], .joined hFront hOperand hJoin, .operand, by simp⟩

/-- What lies in front of a place is the front of an operand and the beginning of it. -/
theorem Place.exists_front {place : Place} {kinds : List TokenKind}
    (h : start.after kinds = some place) : ∃ front begun, Front place.opened front ∧
      Begun place.stage begun ∧ kinds = front ++ begun := by
  refine after_induction (P := fun place kinds => ∃ front begun, Front place.opened front ∧
    Begun place.stage begun ∧ kinds = front ++ begun) ⟨[], [], .nil, .operand, rfl⟩ ?_ h
  rintro place₁ _ kind place₂ ⟨front, begun, hFront, hBegun, rfl⟩ hStep
  obtain ⟨front', begun', hFront', hBegun', hEq⟩ := hStep.front hFront hBegun
  exact ⟨front', begun', hFront', hBegun', by rw [List.append_assoc, hEq]⟩

/-! ### The beginnings of rules -/

/-- A rule is what leads to the last place. -/
theorem derives_iff_after {kinds : List TokenKind} :
    Derives .chain kinds ↔ start.after kinds = some finish := by
  refine ⟨fun h => h.after 0, fun h => ?_⟩
  obtain ⟨front, begun, hFront, hBegun, rfl⟩ := Place.exists_front h
  cases hBegun with
  | join hOperand => exact hFront.finish (.single hOperand)

/-- Whether a rule can begin with words of some kinds. -/
def Viable (kinds : List TokenKind) : Prop :=
  ∃ chain, Derives .chain chain ∧ kinds <+: chain

/-- A rule can begin with all that leads to a place. -/
theorem viable_of_after {place : Place} {kinds : List TokenKind}
    (h : start.after kinds = some place) : Viable kinds := by
  obtain ⟨front, begun, hFront, hBegun, rfl⟩ := Place.exists_front h
  obtain ⟨rest, hOperand⟩ := hBegun.exists_rest
  obtain ⟨rest', hChain⟩ := hFront.exists_rest (.single hOperand)
  refine ⟨_, hChain, rest ++ rest', ?_⟩
  simp

/-- A rule can go on with exactly the kinds that lead on from its place. -/
theorem viable_concat_iff {place : Place} {kinds : List TokenKind} {kind : TokenKind}
    (h : start.after kinds = some place) :
    Viable (kinds ++ [kind]) ↔ ∃ place', Step place kind place' := by
  constructor
  · rintro ⟨_, hChain, rest, rfl⟩
    have hAfter := derives_iff_after.mp hChain
    rw [List.append_assoc, Place.after_append_of_eq h] at hAfter
    obtain ⟨place', hNext, -⟩ := Option.bind_eq_some_iff.mp hAfter
    exact ⟨place', Place.next_eq_some_iff.mp hNext⟩
  · rintro ⟨place', hStep⟩
    exact viable_of_after ((Place.after_concat h).trans (Place.next_eq_some_iff.mpr hStep))

/-- A place admits exactly the kinds with which a rule can go on there, and the end behind a
rule. -/
theorem admits_iff_viable {place : Place} {kinds : List TokenKind} {kind : TokenKind}
    (h : start.after kinds = some place) : place.Admits kind ↔
      Viable (kinds ++ [kind]) ∨ kind = .endOfText ∧ Derives .chain kinds := by
  rw [Place.admits_iff, viable_concat_iff h, derives_iff_after, h, Option.some_inj]

end PostSieve.Rule
