import PostSieve.Proofs.Json.Skipping

/-! Decoding values: strings, truth values, lists and records are read as what they write, whatever
spaces, escapes, order of members and further members they are written with. -/

namespace PostSieve.Json

/-- Whether a decoder finds a value in a text, with spaces in front of it and with anything behind
it that may stand behind a value. -/
structure Decodes {α : Type} (decoder : Decoder α) (text : List Char) (value : α) : Prop where
  starts : StartsValue text
  reads : ∀ spaces rest, IsSpaces spaces → EndsValue rest →
    Reads decoder (spaces ++ (text ++ rest)) value rest

/-- A text that is one value, with spaces around it. -/
theorem Decodes.decode_eq {α : Type} {decoder : Decoder α} {text before after : List Char}
    {value : α} (h : Decodes decoder text value) (hBefore : IsSpaces before)
    (hAfter : IsSpaces after) : decode decoder (before ++ (text ++ after)) = .ok value := by
  have hEnds : EndsValue after := by simpa using hAfter.endsValue endsValue_nil
  obtain ⟨shorter, hRead⟩ := h.reads before after hBefore hEnds
  rw [decode, hRead]
  exact if_pos (skipSpace_eq_nil hAfter)

/-! ### Values without parts -/

theorem WritesString.decodes {s : String} {text : List Char} (h : WritesString s text)
    (expected : String) : Decodes (string expected) text s where
  starts := h.startsValue
  reads spaces rest hSpaces _ := by
    obtain ⟨body, rfl, hBody⟩ := h.exists_reads
    obtain ⟨shorter, hRead⟩ := hBody rest
    have hText : skipSpace (spaces ++ ('"' :: body ++ rest)) = '"' :: (body ++ rest) :=
      skipSpace_append_cons hSpaces rfl
    refine ⟨Nat.lt_trans shorter (length_lt_of_skipSpace hText), ?_⟩
    unfold string
    split
    · rename_i hCons
      cases hText.symm.trans hCons
      rw [hRead]
      rfl
    · rename_i hOther
      exact absurd hText (hOther _)

theorem WritesFlag.decodes {b : Bool} {text : List Char} (h : WritesFlag b text) :
    Decodes boolean text b where
  starts := by
    subst h
    cases b <;> exact ⟨_, _, rfl, by decide⟩
  reads spaces rest hSpaces _ := by
    subst h
    have hWord (word : List Char) := length_of_skipWord (skipWord_append word rest)
    cases b with
    | true =>
      have hText : skipSpace (spaces ++ ("true".toList ++ rest)) = 't' :: ("rue".toList ++ rest) :=
        skipSpace_append_cons hSpaces rfl
      refine ⟨Nat.lt_of_le_of_lt (hWord _) (length_lt_of_skipSpace hText), ?_⟩
      unfold boolean
      split
      · rename_i hCons
        cases hText.symm.trans hCons
        rfl
      · rename_i hCons
        cases hText.symm.trans hCons
      · rename_i hOther _
        exact absurd hText (hOther _)
    | false =>
      have hText : skipSpace (spaces ++ ("false".toList ++ rest)) =
        'f' :: ("alse".toList ++ rest) := skipSpace_append_cons hSpaces rfl
      refine ⟨Nat.lt_of_le_of_lt (hWord _) (length_lt_of_skipSpace hText), ?_⟩
      unfold boolean
      split
      · rename_i hCons
        cases hText.symm.trans hCons
      · rename_i hCons
        cases hText.symm.trans hCons
        rfl
      · rename_i hOther
        exact absurd hText (hOther _)

/-! ### Lists -/

theorem reads_mark {mark : Char} {text rest : List Char} (h : skipSpace text = mark :: rest) :
    Reads (readMark mark) text () rest := by
  refine ⟨length_lt_of_skipSpace h, ?_⟩
  unfold readMark
  split
  · rename_i hNil
    cases h.symm.trans hNil
  · rename_i hCons
    cases h.symm.trans hCons
    rw [if_pos rfl]

theorem nextElement_close {first : Bool} {text rest : List Char}
    (h : skipSpace text = ']' :: rest) : nextElement first text = .ok none := by
  unfold nextElement
  split
  · rename_i hNil
    cases h.symm.trans hNil
  · rfl
  · rename_i hCons
    cases h.symm.trans hCons
  · rename_i hOther _
    exact absurd h (hOther _)

theorem nextElement_first {text spaces rest : List Char} (hSpaces : IsSpaces spaces)
    (h : StartsValue text) :
    nextElement true (spaces ++ (text ++ rest)) =
      .ok (some ⟨spaces ++ (text ++ rest), Nat.le_refl _⟩) := by
  obtain ⟨c, tail, rfl, hSpace, hComma, hBracket, -⟩ := h
  have hText : skipSpace (spaces ++ (c :: tail ++ rest)) = c :: (tail ++ rest) :=
    skipSpace_append_cons hSpaces hSpace
  unfold nextElement
  split
  · rename_i hNil
    cases hText.symm.trans hNil
  · rename_i hCons
    cases hText.symm.trans hCons
    exact absurd rfl hBracket
  · rfl
  · rfl

theorem nextElement_comma {item before after rest : List Char} (hBefore : IsSpaces before)
    (hAfter : IsSpaces after) (h : StartsValue item) :
    ∃ shorter, nextElement false (before ++ ',' :: (after ++ (item ++ rest))) =
      .ok (some ⟨after ++ (item ++ rest), shorter⟩) := by
  obtain ⟨c, tail, rfl, hSpace, -, hBracket, -⟩ := h
  have hText : skipSpace (before ++ ',' :: (after ++ (c :: tail ++ rest))) =
      ',' :: (after ++ (c :: tail ++ rest)) := skipSpace_append_cons hBefore rfl
  have hItem : skipSpace (after ++ (c :: tail ++ rest)) = c :: (tail ++ rest) :=
    skipSpace_append_cons hAfter hSpace
  refine ⟨Nat.le_of_lt (length_lt_of_skipSpace hText), ?_⟩
  unfold nextElement
  split
  · rename_i hNil
    cases hText.symm.trans hNil
  · rename_i hCons
    cases hText.symm.trans hCons
  · rename_i hCons
    cases hText.symm.trans hCons
    rw [if_neg Bool.false_ne_true]
    split
    · rename_i hNil
      cases hItem.symm.trans hNil
    · rename_i hClose
      cases hItem.symm.trans hClose
      exact absurd rfl hBracket
    · rfl
  · rename_i hOther
    exact absurd hText (hOther _)

/-- Whether elements are read up to the closing bracket. -/
def ReadsElements {α : Type} (element : Decoder α) (first : Bool) (text : List Char)
    (values : List α) (rest : List Char) : Prop :=
  ∃ r, elements element first text = .ok r ∧ r.1.1 = values ∧ skipSpace r.1.2 = ']' :: rest

section Elements

variable {α : Type} {element : Decoder α} {first : Bool} {text text' rest : List Char}

theorem readsElements_close (h : skipSpace text = ']' :: rest) :
    ReadsElements element first text [] rest := by
  refine ⟨⟨([], text), Nat.le_refl _⟩, ?_, rfl, h⟩
  rw [elements, nextElement_close h]
  rfl

theorem readsElements_next {mid : List Char} {value : α} {values : List α}
    (hNext : ∃ shorter, nextElement first text = .ok (some ⟨text', shorter⟩))
    (hElement : Reads element text' value mid) (h : ReadsElements element false mid values rest) :
    ReadsElements element first text (value :: values) rest := by
  obtain ⟨hLe, hNext⟩ := hNext
  obtain ⟨shorter, hElement⟩ := hElement
  obtain ⟨⟨⟨values, tail⟩, hLe'⟩, hElements, rfl, hTail⟩ := h
  simp only at hLe'
  refine ⟨⟨(value :: values, tail), by simp only; omega⟩, ?_, rfl, hTail⟩
  rw [elements, hNext]
  simp only [Bind.bind, Except.bind, hElement, hElements]
  rfl

end Elements

theorem Continued.reads {α : Type} {element : Decoder α} {items : List (List Char)}
    {values : List α} {text : List Char} (h : Continued items text)
    (hItems : List.Forall₂ (fun value item => Decodes element item value) values items)
    (rest : List Char) : ReadsElements element false (text ++ ']' :: rest) values rest := by
  induction h generalizing values with
  | done hSpaces =>
    cases hItems
    exact readsElements_close (skipSpace_append_cons hSpaces rfl)
  | @next before after item text items hBefore hAfter hText ih =>
    cases hItems with
    | cons hItem hItems =>
      have hAppend : before ++ ',' :: (after ++ (item ++ text)) ++ ']' :: rest =
          before ++ ',' :: (after ++ (item ++ (text ++ ']' :: rest))) := by
        simp only [List.append_assoc, List.cons_append]
      rw [hAppend]
      have hEnds : EndsValue (text ++ ']' :: rest) := hText.endsValue (Or.inl rfl)
      exact readsElements_next (nextElement_comma hBefore hAfter hItem.starts)
        (hItem.reads after _ hAfter hEnds) (ih hItems)

theorem Separated.reads {α : Type} {element : Decoder α} {items : List (List Char)}
    {values : List α} {inner : List Char} (h : Separated items inner)
    (hItems : List.Forall₂ (fun value item => Decodes element item value) values items)
    (rest : List Char) : ReadsElements element true (inner ++ ']' :: rest) values rest := by
  cases h with
  | none hSpaces =>
    cases hItems
    exact readsElements_close (skipSpace_append_cons hSpaces rfl)
  | @some before item text items hBefore hText =>
    cases hItems with
    | cons hItem hItems =>
      rw [List.append_assoc, List.append_assoc]
      have hEnds : EndsValue (text ++ ']' :: rest) := hText.endsValue (Or.inl rfl)
      exact readsElements_next ⟨_, nextElement_first hBefore hItem.starts⟩
        (hItem.reads before _ hBefore hEnds) (hText.reads hItems rest)

/-- An array of texts that an element's decoder reads is read as the list of their values. -/
theorem WritesList.decodes_map {α β : Type} {Writes : α → List Char → Prop} {element : Decoder β}
    {f : α → β} {values : List α} {text : List Char} (h : WritesList Writes values text)
    (hEach : ∀ value item, Writes value item → Decodes element item (f value)) :
    Decodes (list element) text (values.map f) := by
  obtain ⟨items, hItems, hArray⟩ := h
  refine ⟨hArray.startsValue, fun spaces rest hSpaces _ => ?_⟩
  obtain ⟨inner, hInner, rfl⟩ := hArray
  have hItems' : List.Forall₂ (fun value item => Decodes element item value) (values.map f) items :=
    List.forall₂_map_left_iff.mpr (hItems.imp hEach)
  obtain ⟨⟨⟨values', tail⟩, hLe⟩, hElements, hValues, hTail⟩ := hInner.reads hItems' rest
  obtain ⟨shorter', hMark⟩ := reads_mark hTail
  have hText : skipSpace (spaces ++ ('[' :: (inner ++ [']']) ++ rest)) =
      '[' :: (inner ++ ']' :: rest) := by
    rw [List.cons_append, skipSpace_append_cons hSpaces rfl, List.append_assoc]
    rfl
  have hLt := length_lt_of_skipSpace hText
  simp only at hValues hTail hMark shorter' hLe
  refine ⟨by omega, ?_⟩
  unfold list
  split
  · rename_i hCons
    cases hText.symm.trans hCons
    simp only [hElements, Bind.bind, Except.bind, hMark, hValues]
    rfl
  · rename_i hOther
    exact absurd hText (hOther _)

theorem WritesList.decodes {α : Type} {Writes : α → List Char → Prop} {element : Decoder α}
    {values : List α} {text : List Char} (h : WritesList Writes values text)
    (hEach : ∀ value item, Writes value item → Decodes element item value) :
    Decodes (list element) text values := by
  have hMap : Decodes (list element) text (values.map id) := h.decodes_map hEach
  rwa [List.map_id] at hMap

end PostSieve.Json
