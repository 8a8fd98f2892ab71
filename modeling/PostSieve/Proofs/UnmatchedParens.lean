import PostSieve.Proofs.Parentheses

/-! The parenthesis that the check of a text is about. Outside the strings of a text, the check
finds the first place at which more has been closed than opened, or else the last parenthesis that
is never closed, or that the parentheses are balanced. -/

namespace PostSieve.Rule

/-! ### Outside strings -/

/-- Whether what comes behind a beginning of a text is outside strings: an even number of quotes
lies in front of it. -/
def IsOutside (before : List Char) : Prop := before.count '"' % 2 = 0

instance : DecidablePred IsOutside := fun _ => inferInstanceAs (Decidable (_ = _))

/-- The characters of a text that are outside strings. -/
def outside (text : List Char) : List Char :=
  text.zipIdx.filterMap fun (c, place) => if IsOutside (text.take place) then some c else none

/-- How often a character stands in a text outside strings. -/
def outerCount (a : Char) (text : List Char) : Nat := (outside text).count a

section Outside

variable {text s t : List Char} {a c : Char}

theorem isOutside_nil : IsOutside [] := rfl

theorem isOutside_append_iff (h : IsOutside s) : IsOutside (s ++ t) ↔ IsOutside t := by
  simp only [IsOutside, List.count_append] at h ⊢
  omega

theorem isOutside_concat_iff (h : c ≠ '"') : IsOutside (text ++ [c]) ↔ IsOutside text := by
  simp [IsOutside, h]

theorem isOutside_concat_quote : IsOutside (text ++ ['"']) ↔ ¬ IsOutside text := by
  simp only [IsOutside, List.count_append, List.count_singleton_self]
  omega

theorem outside_concat (text : List Char) (c : Char) :
    outside (text ++ [c]) = outside text ++ if IsOutside text then [c] else [] := by
  have hFront : ∀ found ∈ text.zipIdx, (text ++ [c]).take found.2 = text.take found.2 := by
    intro found hFound
    have hPlace := (List.mem_zipIdx hFound).2.1
    apply List.take_append_of_le_length
    omega
  unfold outside
  rw [List.zipIdx_append, List.filterMap_append]
  congr 1
  · apply List.filterMap_congr
    intro found hFound
    simp only [hFront found hFound]
  · by_cases h : IsOutside text <;> simp [h]

theorem outside_append (h : IsOutside s) (t : List Char) :
    outside (s ++ t) = outside s ++ outside t := by
  induction t using List.reverseRecOn with
  | nil => rw [List.append_nil]; exact (List.append_nil _).symm
  | append_singleton t c ih =>
    rw [← List.append_assoc, outside_concat, outside_concat, ih, List.append_assoc]
    simp only [isOutside_append_iff h]

theorem outerCount_append (h : IsOutside s) (a : Char) (t : List Char) :
    outerCount a (s ++ t) = outerCount a s + outerCount a t := by
  rw [outerCount, outside_append h, List.count_append]
  rfl

theorem outerCount_concat (a : Char) (text : List Char) (c : Char) :
    outerCount a (text ++ [c]) = outerCount a text + if IsOutside text ∧ c = a then 1 else 0 := by
  rw [outerCount, outside_concat, List.count_append, outerCount]
  by_cases h : IsOutside text <;> simp [h, List.count_singleton]

end Outside

/-! ### Balance -/

/-- Whether no beginning of a text closes more parentheses than it opens. -/
def NeverOvercloses (text : List Char) : Prop :=
  ∀ front, front <+: text → outerCount ')' front ≤ outerCount '(' front

/-- Whether the parentheses of a text are balanced. -/
structure IsBalanced (text : List Char) : Prop where
  never : NeverOvercloses text
  count_eq : outerCount ')' text = outerCount '(' text

section Balance

variable {text s t : List Char} {c : Char}

theorem neverOvercloses_nil : NeverOvercloses [] := by
  intro front hFront
  rw [List.prefix_nil.mp hFront]
  exact Nat.le_refl 0

theorem NeverOvercloses.count_le (h : NeverOvercloses text) :
    outerCount ')' text ≤ outerCount '(' text := h text List.prefix_rfl

theorem neverOvercloses_concat_iff : NeverOvercloses (text ++ [c]) ↔
    NeverOvercloses text ∧ outerCount ')' (text ++ [c]) ≤ outerCount '(' (text ++ [c]) := by
  constructor
  · intro h
    exact ⟨fun front hFront => h front (hFront.trans (List.prefix_append text [c])), h.count_le⟩
  · rintro ⟨h, hLast⟩ front hFront
    rcases List.prefix_concat_iff.mp hFront with rfl | hFront
    · exact hLast
    · exact h front hFront

theorem NeverOvercloses.append (hs : NeverOvercloses s) (hOutside : IsOutside s)
    (ht : NeverOvercloses t) : NeverOvercloses (s ++ t) := by
  rintro front ⟨rest, hRest⟩
  rcases List.append_eq_append_iff.mp hRest with ⟨more, rfl, -⟩ | ⟨front, rfl, rfl⟩
  · exact hs front (List.prefix_append front more)
  · have hCount := hs.count_le
    have hFront := ht front (List.prefix_append front rest)
    rw [outerCount_append hOutside, outerCount_append hOutside]
    omega

theorem isOutside_openParen : IsOutside ['('] := by decide

theorem neverOvercloses_openParen : NeverOvercloses ['('] :=
  neverOvercloses_concat_iff.mpr ⟨neverOvercloses_nil, by decide⟩

theorem outerCount_openParen_cons (text : List Char) :
    outerCount '(' ('(' :: text) = outerCount '(' text + 1 ∧
      outerCount ')' ('(' :: text) = outerCount ')' text := by
  have hCons (a : Char) : outerCount a ('(' :: text) = outerCount a ['('] + outerCount a text :=
    outerCount_append isOutside_openParen a text
  have hOpen : outerCount '(' ['('] = 1 := by decide
  have hClose : outerCount ')' ['('] = 0 := by decide
  rw [hCons, hCons, hOpen, hClose]
  omega

theorem NeverOvercloses.openParen_cons (h : NeverOvercloses t) : NeverOvercloses ('(' :: t) :=
  neverOvercloses_openParen.append isOutside_openParen h

namespace IsBalanced

theorem nil : IsBalanced [] := ⟨neverOvercloses_nil, rfl⟩

theorem append (hs : IsBalanced s) (hOutside : IsOutside s) (ht : IsBalanced t) :
    IsBalanced (s ++ t) := by
  refine ⟨hs.never.append hOutside ht.never, ?_⟩
  rw [outerCount_append hOutside, outerCount_append hOutside, hs.count_eq, ht.count_eq]

/-- A character that is no parenthesis outside strings changes nothing. -/
theorem concat (h : IsBalanced text) (hc : IsOutside text → c ≠ '(' ∧ c ≠ ')') :
    IsBalanced (text ++ [c]) := by
  have hCount (a : Char) (ha : IsOutside text → c ≠ a) :
      outerCount a (text ++ [c]) = outerCount a text := by
    rw [outerCount_concat, if_neg fun hBoth => ha hBoth.1 hBoth.2, Nat.add_zero]
  have hOpen := hCount '(' fun hOutside => (hc hOutside).1
  have hClose := hCount ')' fun hOutside => (hc hOutside).2
  have hEq := h.count_eq
  refine ⟨neverOvercloses_concat_iff.mpr ⟨h.never, ?_⟩, ?_⟩ <;> omega

/-- A balanced text in parentheses is balanced. -/
theorem inParens (h : IsBalanced text) (hOutside : IsOutside text) :
    IsBalanced ('(' :: (text ++ [')'])) := by
  have hClose := outerCount_concat ')' text ')'
  have hOpen := outerCount_concat '(' text ')'
  have hCons := outerCount_openParen_cons (text ++ [')'])
  have hEq := h.count_eq
  simp only [hOutside, true_and, if_true] at hClose
  simp only [Char.reduceEq, and_false, if_false] at hOpen
  have hConcat : '(' :: (text ++ [')']) = '(' :: text ++ [')'] := rfl
  refine ⟨?_, by omega⟩
  rw [hConcat, neverOvercloses_concat_iff]
  refine ⟨h.never.openParen_cons, ?_⟩
  rw [← hConcat]
  omega

end IsBalanced

/-- Where more is closed than opened, there is a first parenthesis that does so: what lies in front
of it is balanced. -/
theorem exists_of_not_neverOvercloses (h : ¬ NeverOvercloses text) :
    ∃ before after, text = before ++ ')' :: after ∧ IsOutside before ∧ IsBalanced before := by
  induction text using List.reverseRecOn with
  | nil => exact absurd neverOvercloses_nil h
  | append_singleton text c ih =>
    by_cases hText : NeverOvercloses text
    · -- It is the last character: one that opened something or stood in a string would not do so.
      have hCount := hText.count_le
      have hOver : outerCount '(' (text ++ [c]) < outerCount ')' (text ++ [c]) := by
        by_contra hLe
        exact h (neverOvercloses_concat_iff.mpr ⟨hText, Nat.not_lt.mp hLe⟩)
      rw [outerCount_concat, outerCount_concat] at hOver
      by_cases hClose : IsOutside text ∧ c = ')'
      · obtain ⟨hOutside, rfl⟩ := hClose
        simp only [hOutside, true_and, if_true, Char.reduceEq, if_false] at hOver
        exact ⟨text, [], rfl, hOutside, hText, by omega⟩
      · rw [if_neg hClose] at hOver
        omega
    · obtain ⟨before, after, rfl, hOutside, hBalanced⟩ := ih hText
      exact ⟨before, after ++ [c], by simp, hOutside, hBalanced⟩

end Balance

/-! ### Parentheses left open -/

/-- What lies in front of a place in a text leaves open the parentheses at `opened`, the innermost
first: what lies in front of the outermost of them, between them and behind them is balanced. -/
inductive LeavesOpen : List Nat → List Char → Prop
  | none {text : List Char} : IsBalanced text → LeavesOpen [] text
  | more {opened : List Nat} {front inner : List Char} : LeavesOpen opened front →
      IsOutside front → IsBalanced inner →
      LeavesOpen (byteLength front :: opened) (front ++ '(' :: inner)

namespace LeavesOpen

variable {opened : List Nat} {place : Nat} {front part : List Char} {c : Char}

theorem isOutside_inner_iff {inner : List Char} (h : IsOutside front) :
    IsOutside (front ++ '(' :: inner) ↔ IsOutside inner := by
  rw [isOutside_append_iff h]
  exact isOutside_append_iff isOutside_openParen

theorem never (h : LeavesOpen opened front) : NeverOvercloses front := by
  induction h with
  | none hBalanced => exact hBalanced.never
  | more _ hOutside hInner ih => exact ih.append hOutside hInner.never.openParen_cons

theorem append (h : LeavesOpen opened front) (hOutside : IsOutside front)
    (hPart : IsBalanced part) : LeavesOpen opened (front ++ part) := by
  cases h with
  | none hFront => exact .none (hFront.append hOutside hPart)
  | more hOuter hFront hInner =>
    rw [isOutside_inner_iff hFront] at hOutside
    rw [List.append_assoc, List.cons_append]
    exact .more hOuter hFront (hInner.append hOutside hPart)

theorem concat (h : LeavesOpen opened front) (hc : IsOutside front → c ≠ '(' ∧ c ≠ ')') :
    LeavesOpen opened (front ++ [c]) := by
  cases h with
  | none hFront => exact .none (hFront.concat hc)
  | more hOuter hFront hInner =>
    rw [isOutside_inner_iff hFront] at hc
    rw [List.append_assoc, List.cons_append]
    exact .more hOuter hFront (hInner.concat hc)

theorem openParen (h : LeavesOpen opened front) (hOutside : IsOutside front) :
    LeavesOpen (byteLength front :: opened) (front ++ ['(']) :=
  .more h hOutside .nil

/-- A closing parenthesis makes a balanced part of the innermost parenthesis and what follows. -/
theorem closeParen (h : LeavesOpen (place :: opened) front) (hOutside : IsOutside front) :
    LeavesOpen opened (front ++ [')']) := by
  cases h with
  | more hOuter hFront hInner =>
    rw [isOutside_inner_iff hFront] at hOutside
    rw [List.append_assoc, List.cons_append]
    exact hOuter.append hFront (hInner.inParens hOutside)

end LeavesOpen

/-! ### What the check finds -/

/-- Whether the parenthesis at a byte of a text is the first that closes more than has been
opened. -/
def FirstOverclosing (text : List Char) (place : Nat) : Prop :=
  ∃ before after, text = before ++ ')' :: after ∧ place = byteLength before ∧
    NeverOvercloses before ∧
    outerCount '(' (before ++ [')']) < outerCount ')' (before ++ [')'])

/-- Whether a parenthesis that is opened in front of a text is closed in it: by the parenthesis that
has a balanced text between. -/
def IsMatched (after : List Char) : Prop :=
  ∃ middle rest, after = middle ++ ')' :: rest ∧ IsOutside middle ∧ IsBalanced middle

/-- Whether a parenthesis is opened, outside strings, at a byte of a text, in front of `after`, and
never closed. -/
def OpensUnmatched (text : List Char) (place : Nat) (after : List Char) : Prop :=
  ∃ before, text = before ++ '(' :: after ∧ place = byteLength before ∧ IsOutside before ∧
    ¬ IsMatched after

/-- Whether the last parenthesis that is opened and never closed stands at a byte of a text. -/
def LastUnmatched (text : List Char) (place : Nat) : Prop :=
  (∃ after, OpensUnmatched text place after) ∧
    ∀ other after, OpensUnmatched text other after → other ≤ place

/-- What there is to find about the parentheses of a text. -/
inductive Finds (text : List Char) : Option RuleError → Prop
  | nothing : IsBalanced text → Finds text none
  | closing {before after : List Char} : text = before ++ ')' :: after → IsOutside before →
      IsBalanced before → Finds text (some (.unbalancedParen ')' (byteLength before)))
  | opening {before after : List Char} : text = before ++ '(' :: after → IsOutside before →
      NeverOvercloses text → IsBalanced after →
      Finds text (some (.unbalancedParen '(' (byteLength before)))

theorem LeavesOpen.finds {opened : List Nat} {text : List Char} (h : LeavesOpen opened text) :
    Finds text (opened.head?.map (.unbalancedParen '(' ·)) := by
  have hNever := h.never
  cases h with
  | none hBalanced => exact .nothing hBalanced
  | more _ hOutside hInner => exact .opening rfl hOutside hNever hInner

/-- Behind any beginning of a text, the search finds what there is to find in the whole of it. -/
theorem findUnbalanced_finds {opened : List Nat} {quoted : Bool} {front text : List Char}
    (h : LeavesOpen opened front) (hQuoted : quoted = false ↔ IsOutside front) :
    Finds (front ++ text) (findUnbalanced opened quoted (byteLength front) text) := by
  induction text generalizing opened quoted front with
  | nil =>
    rw [List.append_nil]
    exact h.finds
  | cons c text ih =>
    have hNext : byteLength front + c.utf8Size = byteLength (front ++ [c]) := by
      rw [byteLength_append]
      rfl
    have hText : front ++ c :: text = front ++ [c] ++ text := by simp
    rw [findUnbalanced_cons, hNext]
    split
    case isTrue hQuote =>
      subst hQuote
      rw [hText]
      apply ih
      · exact h.concat fun _ => by decide
      · rw [isOutside_concat_quote, ← hQuoted]
        cases quoted <;> simp
    rename_i hQuote
    split
    case isTrue hOpen =>
      obtain ⟨rfl, hFlag⟩ := hOpen
      have hOutside : IsOutside front := hQuoted.mp (by simpa using hFlag)
      rw [hText]
      apply ih (h.openParen hOutside)
      rw [isOutside_concat_iff hQuote]
      exact hQuoted
    rename_i hOpen
    split
    case isTrue hClose =>
      obtain ⟨rfl, hFlag⟩ := hClose
      have hOutside : IsOutside front := hQuoted.mp (by simpa using hFlag)
      cases opened with
      | nil =>
        cases h with
        | none hBalanced => exact .closing rfl hOutside hBalanced
      | cons place opened =>
        rw [hText]
        apply ih (h.closeParen hOutside)
        rw [isOutside_concat_iff hQuote]
        exact hQuoted
    rename_i hClose
    rw [hText]
    apply ih
    · apply h.concat
      intro hOutside
      rw [hQuoted.mpr hOutside] at hOpen hClose
      simpa using And.intro hOpen hClose
    · rw [isOutside_concat_iff hQuote]
      exact hQuoted

theorem finds_findUnbalanced (text : List Char) :
    Finds text (findUnbalanced [] false 0 text) :=
  findUnbalanced_finds (.none .nil) (by simp [isOutside_nil])

/-! ### There is only one thing to find -/

section Unique

variable {text before after : List Char} {place other : Nat}

theorem outerCount_closeParen_concat (hOutside : IsOutside before) :
    outerCount ')' (before ++ [')']) = outerCount ')' before + 1 ∧
      outerCount '(' (before ++ [')']) = outerCount '(' before := by
  simp [outerCount_concat, hOutside]

theorem firstOverclosing_of_isBalanced (hOutside : IsOutside before) (h : IsBalanced before) :
    FirstOverclosing (before ++ ')' :: after) (byteLength before) := by
  have hCount := outerCount_closeParen_concat hOutside
  have hEq := h.count_eq
  exact ⟨before, after, rfl, rfl, h.never, by omega⟩

theorem FirstOverclosing.not_never (h : FirstOverclosing text place) : ¬ NeverOvercloses text := by
  obtain ⟨before, after, rfl, -, -, hOver⟩ := h
  intro hNever
  have hLe := hNever (before ++ [')']) ⟨after, by simp⟩
  omega

theorem FirstOverclosing.le (h : FirstOverclosing text place) (h' : FirstOverclosing text other) :
    place ≤ other := by
  obtain ⟨before, after, rfl, rfl, hNever, -⟩ := h
  obtain ⟨before', after', hText, rfl, -, hOver⟩ := h'
  rcases List.append_eq_append_iff.mp hText with ⟨more, rfl, -⟩ | ⟨more, rfl, hMore⟩
  · rw [byteLength_append]
    omega
  · cases more with
    | nil => rw [List.append_nil]
    | cons c more =>
      -- The other parenthesis would lie in the beginning that closes nothing too much.
      obtain ⟨rfl, -⟩ := List.cons.inj hMore
      have hLe := hNever (before' ++ [')']) ⟨more, by simp⟩
      omega

theorem IsMatched.not_never (h : IsMatched after) : ¬ NeverOvercloses after := by
  obtain ⟨middle, rest, rfl, hOutside, hBalanced⟩ := h
  exact (firstOverclosing_of_isBalanced hOutside hBalanced).not_never

/-- In a balanced text, what is opened is closed. -/
theorem IsBalanced.isMatched (h : IsBalanced (before ++ '(' :: after))
    (hOutside : IsOutside before) : IsMatched after := by
  apply exists_of_not_neverOvercloses
  intro hNever
  have hEq := h.count_eq
  have hCons := outerCount_openParen_cons after
  have hBefore := (h.never before (List.prefix_append before _))
  have hAfter := hNever.count_le
  rw [outerCount_append hOutside, outerCount_append hOutside] at hEq
  omega

theorem IsBalanced.not_opensUnmatched (h : IsBalanced text) :
    ¬ OpensUnmatched text place after := by
  rintro ⟨before, rfl, -, hOutside, hUnmatched⟩
  exact hUnmatched (h.isMatched hOutside)

theorem lastUnmatched_of_isBalanced (hOutside : IsOutside before) (h : IsBalanced after) :
    LastUnmatched (before ++ '(' :: after) (byteLength before) := by
  refine ⟨⟨after, before, rfl, rfl, hOutside, fun hMatched => hMatched.not_never h.never⟩, ?_⟩
  rintro other after' ⟨before', hText, rfl, hOutside', hUnmatched⟩
  rcases List.append_eq_append_iff.mp hText with ⟨more, rfl, hMore⟩ | ⟨more, rfl, -⟩
  · cases more with
    | nil => rw [List.append_nil]
    | cons c middle =>
      -- The other parenthesis would lie in the balanced part.
      obtain ⟨rfl, rfl⟩ := List.cons.inj hMore
      rw [LeavesOpen.isOutside_inner_iff hOutside] at hOutside'
      exact absurd (h.isMatched hOutside') hUnmatched
  · rw [byteLength_append]
    omega

theorem LastUnmatched.eq (h : LastUnmatched text place) (h' : LastUnmatched text other) :
    place = other := by
  obtain ⟨⟨after, hPlace⟩, hLast⟩ := h
  obtain ⟨⟨after', hOther⟩, hLast'⟩ := h'
  exact Nat.le_antisymm (hLast' place after hPlace) (hLast other after' hOther)

/-! ### What is found, case by case -/

theorem finds_nothing_iff : Finds text none ↔ IsBalanced text := by
  constructor
  · rintro ⟨h⟩
    exact h
  · exact .nothing

theorem finds_closing_iff :
    Finds text (some (.unbalancedParen ')' place)) ↔ FirstOverclosing text place := by
  constructor
  · intro h
    generalize hFound : some (RuleError.unbalancedParen ')' place) = found at h
    cases h with
    | nothing => cases hFound
    | closing hText hOutside hBalanced =>
      cases hFound
      subst hText
      exact firstOverclosing_of_isBalanced hOutside hBalanced
    | opening => simp at hFound
  · rintro ⟨before, after, hText, rfl, hNever, hOver⟩
    have hCount := hNever.count_le
    have hOutside : IsOutside before := by
      by_contra hInside
      simp only [outerCount_concat, hInside, false_and, if_false] at hOver
      omega
    have hConcat := outerCount_closeParen_concat hOutside
    exact .closing hText hOutside ⟨hNever, by omega⟩

theorem finds_opening_iff : Finds text (some (.unbalancedParen '(' place)) ↔
    NeverOvercloses text ∧ ∃ before after, text = before ++ '(' :: after ∧
      place = byteLength before ∧ IsOutside before ∧ IsBalanced after := by
  constructor
  · intro h
    generalize hFound : some (RuleError.unbalancedParen '(' place) = found at h
    cases h with
    | nothing => cases hFound
    | closing => simp at hFound
    | @opening before after hText hOutside hNever hBalanced =>
      cases hFound
      exact ⟨hNever, before, after, hText, rfl, hOutside, hBalanced⟩
  · rintro ⟨hNever, before, after, hText, rfl, hOutside, hBalanced⟩
    exact .opening hText hOutside hNever hBalanced

/-- A parenthesis that lies in front of a balanced rest is the last that is never closed. -/
theorem Finds.lastUnmatched (h : Finds text (some (.unbalancedParen '(' place))) :
    LastUnmatched text place := by
  obtain ⟨-, before, after, rfl, rfl, hOutside, hBalanced⟩ := finds_opening_iff.mp h
  exact lastUnmatched_of_isBalanced hOutside hBalanced

theorem finds_opening_iff_lastUnmatched : Finds text (some (.unbalancedParen '(' place)) ↔
    NeverOvercloses text ∧ LastUnmatched text place := by
  constructor
  · intro h
    exact ⟨(finds_opening_iff.mp h).1, h.lastUnmatched⟩
  · rintro ⟨hNever, hLast⟩
    -- Something is found in every text, and here it can be nothing else.
    have hFinds := finds_findUnbalanced text
    generalize findUnbalanced [] false 0 text = found at hFinds
    cases hFinds with
    | nothing hBalanced =>
      obtain ⟨after, hOpens⟩ := hLast.1
      exact absurd hOpens hBalanced.not_opensUnmatched
    | closing hText hOutside hBalanced =>
      subst hText
      exact absurd hNever (firstOverclosing_of_isBalanced hOutside hBalanced).not_never
    | opening hText hOutside hNever hBalanced =>
      have hFinds := Finds.opening hText hOutside hNever hBalanced
      rwa [hLast.eq hFinds.lastUnmatched]

theorem Finds.cases {found : Option RuleError} (h : Finds text found) :
    found = none ∧ IsBalanced text ∨
      (∃ place, found = some (.unbalancedParen ')' place) ∧ FirstOverclosing text place) ∨
      ∃ place, found = some (.unbalancedParen '(' place) ∧ NeverOvercloses text ∧
        LastUnmatched text place := by
  cases h with
  | nothing hBalanced => exact .inl ⟨rfl, hBalanced⟩
  | closing hText hOutside hBalanced =>
    subst hText
    exact .inr (.inl ⟨_, rfl, firstOverclosing_of_isBalanced hOutside hBalanced⟩)
  | opening hText hOutside hNever hBalanced =>
    subst hText
    exact .inr (.inr ⟨_, rfl, hNever, lastUnmatched_of_isBalanced hOutside hBalanced⟩)

theorem Finds.unique {found found' : Option RuleError} (h : Finds text found)
    (h' : Finds text found') : found = found' := by
  have hBoth {place : Nat} (hBalanced : IsBalanced text) : ¬ LastUnmatched text place :=
    fun hLast => hBalanced.not_opensUnmatched hLast.1.choose_spec
  rcases h.cases with ⟨rfl, hBalanced⟩ | ⟨place, rfl, hFirst⟩ | ⟨place, rfl, hNever, hLast⟩ <;>
    rcases h'.cases with ⟨rfl, hBalanced'⟩ | ⟨other, rfl, hFirst'⟩ | ⟨other, rfl, hNever', hLast'⟩
  · rfl
  · exact absurd hBalanced.never hFirst'.not_never
  · exact absurd hLast' (hBoth hBalanced)
  · exact absurd hBalanced'.never hFirst.not_never
  · rw [Nat.le_antisymm (hFirst.le hFirst') (hFirst'.le hFirst)]
  · exact absurd hNever' hFirst.not_never
  · exact absurd hLast (hBoth hBalanced')
  · exact absurd hNever hFirst'.not_never
  · rw [hLast.eq hLast']

theorem findUnbalanced_eq_iff {found : Option RuleError} :
    findUnbalanced [] false 0 text = found ↔ Finds text found := by
  constructor
  · rintro rfl
    exact finds_findUnbalanced text
  · exact (finds_findUnbalanced text).unique

end Unique

theorem checkParens_eq_error_iff {text : String} {e : RuleError} :
    checkParens text = .error e ↔ findUnbalanced [] false 0 text.toList = some e := by
  rw [checkParens]
  cases findUnbalanced [] false 0 text.toList <;> simp

/-- The check of the parentheses finds the culprit. It succeeds exactly if the parentheses outside
the strings of a text are balanced. It is about a closing parenthesis exactly where one is the first
that closes more than has been opened, and about an opening one exactly where none does so and that
is the last one never closed, all behind it being balanced; there is no other error. The places are
the numbers of bytes in front of these parentheses. -/
theorem checkParens_finds (text : String) :
    (checkParens text = .ok () ↔ IsBalanced text.toList) ∧
    (∀ place, checkParens text = .error (.unbalancedParen ')' place) ↔
      FirstOverclosing text.toList place) ∧
    (∀ place, checkParens text = .error (.unbalancedParen '(' place) ↔
      NeverOvercloses text.toList ∧ LastUnmatched text.toList place) ∧
    (∀ place, checkParens text = .error (.unbalancedParen '(' place) ↔
      NeverOvercloses text.toList ∧ ∃ before after, text.toList = before ++ '(' :: after ∧
        place = byteLength before ∧ IsOutside before ∧ IsBalanced after) ∧
    ∀ e, checkParens text = .error e →
      ∃ place, e = .unbalancedParen ')' place ∨ e = .unbalancedParen '(' place := by
  refine ⟨?_, fun place => ?_, fun place => ?_, fun place => ?_, fun e he => ?_⟩
  · rw [checkParens_eq_ok_iff, findUnbalanced_eq_iff, finds_nothing_iff]
  · rw [checkParens_eq_error_iff, findUnbalanced_eq_iff, finds_closing_iff]
  · rw [checkParens_eq_error_iff, findUnbalanced_eq_iff, finds_opening_iff_lastUnmatched]
  · rw [checkParens_eq_error_iff, findUnbalanced_eq_iff, finds_opening_iff]
  · rw [checkParens_eq_error_iff, findUnbalanced_eq_iff] at he
    rcases he.cases with ⟨hNone, -⟩ | ⟨place, hFound, -⟩ | ⟨place, hFound, -⟩
    · cases hNone
    · exact ⟨place, .inl (Option.some.inj hFound)⟩
    · exact ⟨place, .inr (Option.some.inj hFound)⟩

/-- The place of the parenthesis behind `é` counts its two bytes; the one in quotes is passed
over. -/
example : checkParens "(é \"(\" (" = .error (.unbalancedParen '(' 8) := by decide

end PostSieve.Rule
