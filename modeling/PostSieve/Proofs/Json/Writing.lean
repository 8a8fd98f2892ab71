import PostSieve.Json.Writer
import PostSieve.Proofs.Decimals
import PostSieve.Proofs.Json.Decoding

/-! What is written as JSON: strings, numbers, lists and objects are written by the grammar, and so
they are read back as what they were written for. -/

namespace PostSieve.Json

/-! ### Strings -/

theorem isHexDigit_hexDigit {n : Nat} (h : n < 16) : IsHexDigit (hexDigit n) n := ⟨h, Or.inl rfl⟩

/-- The escape of a control character writes its code. -/
theorem writesUnit_control {n : Nat} (h : n < 0x20) :
    WritesUnit n ['0', '0', hexDigit (n / 16), hexDigit (n % 16)] := by
  refine ⟨'0', '0', hexDigit (n / 16), hexDigit (n % 16), 0, 0, n / 16, n % 16, rfl,
    isHexDigit_hexDigit (by decide), isHexDigit_hexDigit (by decide),
    isHexDigit_hexDigit (by omega), isHexDigit_hexDigit (by omega), ?_⟩
  omega

theorem writesChar_escaped (c : Char) : WritesChar c (escaped c) := by
  unfold escaped
  split_ifs with hQuote hEscape hBack hFeed hLine hReturn hTab hControl
  case neg => exact .plain (Nat.not_lt.mp hControl) hQuote hEscape
  rotate_right
  · exact .code (writesUnit_control hControl)
  -- The others are the characters that a letter escapes.
  all_goals
    subst c
    exact .short (by decide)

theorem writesString_writeString (s : String) : WritesString s (writeString s).toList := by
  refine ⟨s.toList.map escaped, ?_, ?_⟩
  · rw [List.forall₂_map_right_iff, List.forall₂_same]
    exact fun c _ => writesChar_escaped c
  · rw [writeString, String.toList_ofList, List.flatMap_def]
    rfl

/-! ### Numbers -/

theorem whole_of_fits {s : Significand} {c : Char} (hFull : s.full = false)
    (h : 10 * s.value + digitValue c < UInt64.size) :
    s.whole c = { s with value := 10 * s.value + digitValue c } := by
  simp [Significand.whole, hFull, h]

/-- Digits whose number fits into a word are gathered without loss. -/
theorem foldl_whole {digits : List Char} {n : Nat}
    (h : Nat.ofDigitChars 10 digits n < UInt64.size) :
    digits.foldl .whole ⟨n, 0, false⟩ =
      (⟨Nat.ofDigitChars 10 digits n, 0, false⟩ : Significand) := by
  induction digits generalizing n with
  | nil => rfl
  | cons c digits ih =>
    rw [Nat.ofDigitChars_cons] at h
    have hFits : 10 * n + digitValue c < UInt64.size := by
      rw [Nat.ofDigitChars_eq_ofDigitChars_zero] at h
      have hLe := Nat.le_mul_of_pos_left (10 * n + (c.toNat - '0'.toNat))
        (show 0 < 10 ^ digits.length from Nat.pow_pos (by decide))
      show 10 * n + (c.toNat - '0'.toNat) < UInt64.size
      omega
    rw [List.foldl_cons, whole_of_fits rfl hFits, Nat.ofDigitChars_cons]
    exact ih h

theorem readNumber_toString (n : UInt64) {rest : List Char} (hRest : EndsNumber rest) :
    readNumber false ((toString n.toNat).toList ++ rest) = .ok (.natural n, rest) := by
  have hSpan := spanDigits_append (fun _ => @isDigit_of_mem_toString n.toNat _) hRest.1
  have hFold : (toString n.toNat).toList.foldl .whole ⟨0, 0, false⟩ =
      (⟨n.toNat, 0, false⟩ : Significand) := by
    have hValue := decimalValue_toString n.toNat
    rw [decimalValue_eq_ofDigitChars] at hValue
    rw [foldl_whole (by rw [hValue]; exact n.toNat_lt), hValue]
  unfold readNumber
  rw [hSpan]
  split
  · rename_i hEq
    exact absurd (Prod.mk.inj hEq).1 (toList_toString_ne_nil _)
  · rename_i hEq
    exact absurd (Prod.mk.inj hEq).1 (toList_toString_ne_nil _)
  · rename_i hEq
    cases toString_zero_cons (Prod.mk.inj hEq).1
  · rename_i hEq
    obtain ⟨hDigits, hRest'⟩ := Prod.mk.inj hEq
    rw [← hDigits, ← hRest', hFold]
    simp only
    split
    · exact absurd rfl (hRest.2 _ rfl).1
    · exact absurd rfl (hRest.2 _ rfl).2.1
    · exact absurd rfl (hRest.2 _ rfl).2.2
    · rw [if_neg Bool.false_ne_true]
      simp [wholeNumber]

theorem toString_eq_cons (n : Nat) :
    ∃ c digits, (toString n).toList = c :: digits ∧ c.isDigit = true := by
  obtain ⟨c, digits, hDigits⟩ := List.exists_cons_of_ne_nil (toList_toString_ne_nil n)
  refine ⟨c, digits, hDigits, ?_⟩
  apply @isDigit_of_mem_toString n
  rw [hDigits]
  exact List.mem_cons_self

theorem WritesNatural.decodes_word {n : UInt64} {text : List Char}
    (h : WritesNatural n.toNat text) : Decodes word text n := by
  subst h
  obtain ⟨c, digits, hDigits, hDigit⟩ := toString_eq_cons n.toNat
  refine ⟨hDigits ▸ startsValue_of_isDigit hDigit, fun spaces rest hSpaces hRest => ?_⟩
  have hNumber := readNumber_toString n hRest.endsNumber
  rw [hDigits, List.cons_append] at hNumber ⊢
  have hText : skipSpace (spaces ++ c :: (digits ++ rest)) = c :: (digits ++ rest) :=
    skipSpace_append_cons hSpaces (isSpace_of_isDigit hDigit)
  have hLe := length_skipSpace_le (spaces ++ c :: (digits ++ rest))
  rw [hText] at hLe
  refine ⟨Nat.lt_of_lt_of_le (length_of_readNumber hNumber) hLe, ?_⟩
  unfold word
  split
  · rename_i hCons
    cases hText.symm.trans hCons
    exact absurd hDigit (by decide)
  · rename_i hCons
    cases hText.symm.trans hCons
    rw [if_pos hDigit]
    split
    · rename_i hRead
      cases hNumber.symm.trans hRead
      rfl
    · rename_i hRead
      cases hNumber.symm.trans hRead
  · rename_i hNil
    cases hText.symm.trans hNil

theorem WritesList.decodes_words {words : List UInt64} {text : List Char}
    (h : WritesList (fun n => WritesNatural (UInt64.toNat n)) words text) :
    Decodes (list word) text words := by
  apply h.decodes
  intro _ _ hWord
  exact hWord.decodes_word

/-- Decodes a natural number of any size, written without leading zeros. -/
def natural : Decoder Nat := fun text =>
  let digits := (spanDigits (skipSpace text)).1
  if h : digits ≠ [] ∧ ('0' ∈ digits.head? → digits.length = 1) then
    .ok ⟨decimalValue digits, (spanDigits (skipSpace text)).2, by
      have := length_of_spanDigits (Prod.eta (spanDigits (skipSpace text))).symm
      have := length_skipSpace_le text
      have := List.length_pos_iff.mpr h.1
      simp only [digits] at *
      omega⟩
  else .error .malformed

theorem WritesNatural.decodes {n : Nat} {text : List Char} (h : WritesNatural n text) :
    Decodes natural text n := by
  subst h
  obtain ⟨c, digits, hDigits, hDigit⟩ := toString_eq_cons n
  refine ⟨hDigits ▸ startsValue_of_isDigit hDigit, fun spaces rest hSpaces hRest => ?_⟩
  have hText : skipSpace (spaces ++ ((toString n).toList ++ rest)) =
      (toString n).toList ++ rest := by
    rw [hDigits, List.cons_append, skipSpace_append_cons hSpaces (isSpace_of_isDigit hDigit)]
  have hSpan : spanDigits ((toString n).toList ++ rest) = ((toString n).toList, rest) :=
    spanDigits_append (fun _ => isDigit_of_mem_toString) hRest.endsNumber.1
  have hWhole : (toString n).toList ≠ [] ∧
      ('0' ∈ (toString n).toList.head? → (toString n).toList.length = 1) := by
    refine ⟨toList_toString_ne_nil n, fun hZero => ?_⟩
    rw [hDigits] at hZero
    cases hZero
    rw [hDigits, toString_zero_cons hDigits]
    rfl
  have hShorter : rest.length < (spaces ++ ((toString n).toList ++ rest)).length := by
    rw [hDigits, List.length_append, List.length_append, List.length_cons]
    omega
  refine ⟨hShorter, ?_⟩
  simp only [natural, hText, hSpan, decimalValue_toString]
  exact dif_pos hWhole

/-! ### Lists and objects -/

theorem isSpaces_replicate (n : Nat) : IsSpaces (List.replicate n ' ') := by
  intro c hc
  rw [List.eq_of_mem_replicate hc]
  rfl

/-- Parts with commas between them are items that continue one another. -/
theorem exists_continued_intercalate {separator margin : String} {gap ending : List Char}
    (hSeparator : separator.toList = ',' :: gap) (hGap : IsSpaces gap)
    (hMargin : IsSpaces margin.toList) (hEnding : IsSpaces ending) (part : String)
    (parts : List String) : ∃ text, Continued (parts.map String.toList) text ∧
      (separator.intercalate ((part :: parts).map (margin ++ ·))).toList ++ ending =
        margin.toList ++ (part.toList ++ text) := by
  induction parts generalizing part with
  | nil =>
    refine ⟨ending, .done hEnding, ?_⟩
    simp
  | cons next parts ih =>
    obtain ⟨text, hText, hEq⟩ := ih next
    have hBreak : IsSpaces (gap ++ margin.toList) := List.forall_mem_append.mpr ⟨hGap, hMargin⟩
    refine ⟨_, .next isSpaces_nil hBreak hText, ?_⟩
    rw [List.map_cons, List.map_cons, String.intercalate_cons_cons, ← List.map_cons,
      String.toList_append, List.append_assoc, hEq]
    simp [hSeparator]

theorem exists_separated_block (opening closing : String) (indent : Nat) (parts : List String) :
    ∃ inner, Separated (parts.map String.toList) inner ∧
      (block opening closing indent parts).toList =
        opening.toList ++ (inner ++ closing.toList) := by
  cases parts with
  | nil =>
    refine ⟨[], .none isSpaces_nil, ?_⟩
    simp [block]
  | cons part parts =>
    have hLine : IsSpaces ['\n'] := List.forall_mem_singleton.mpr rfl
    have hMargin : IsSpaces (String.ofList (List.replicate (indent + 2) ' ')).toList := by
      rw [String.toList_ofList]
      exact isSpaces_replicate _
    have hEnding : IsSpaces ('\n' :: List.replicate indent ' ') :=
      List.forall_mem_cons.mpr ⟨rfl, isSpaces_replicate _⟩
    have hSeparator : ",\n".toList = [',', '\n'] := rfl
    obtain ⟨text, hText, hEq⟩ :=
      exists_continued_intercalate hSeparator hLine hMargin hEnding part parts
    have hBreak : IsSpaces ('\n' :: (String.ofList (List.replicate (indent + 2) ' ')).toList) :=
      List.forall_mem_cons.mpr ⟨rfl, hMargin⟩
    refine ⟨_, .some hBreak hText, ?_⟩
    rw [List.cons_append, ← hEq]
    simp [block]

theorem separated_commas (parts : List String) :
    Separated (parts.map String.toList) (",".intercalate parts).toList := by
  cases parts with
  | nil => exact .none isSpaces_nil
  | cons part parts =>
    have hSeparator : ",".toList = [','] := rfl
    have hMargin : IsSpaces "".toList := isSpaces_nil
    obtain ⟨text, hText, hEq⟩ :=
      exists_continued_intercalate hSeparator isSpaces_nil hMargin isSpaces_nil part parts
    have hCommas : (",".intercalate (part :: parts)).toList = [] ++ (part.toList ++ text) := by
      simpa using hEq
    rw [hCommas]
    exact .some isSpaces_nil hText

theorem writesArray_listBlock (indent : Nat) (elements : List String) :
    WritesArray (elements.map String.toList) (listBlock indent elements).toList := by
  obtain ⟨inner, hInner, hEq⟩ := exists_separated_block "[" "]" indent elements
  exact ⟨inner, hInner, hEq⟩

/-- A member of a name and a written value. -/
def Member.ofParts (part : String × String) : Member :=
  ⟨(writeString part.1).toList, part.2.toList⟩

theorem Member.writesString_key (part : String × String) :
    WritesString part.1 (Member.ofParts part).key := by
  dsimp only [Member.ofParts]
  exact writesString_writeString part.1

/-- A member with its colon, which may hold spaces. -/
def memberText (colon : String) (part : String × String) : String :=
  writeString part.1 ++ colon ++ part.2

theorem forall₂_memberText {colon : String} {gap : List Char} (hColon : colon.toList = ':' :: gap)
    (hGap : IsSpaces gap) (members : List (String × String)) :
    List.Forall₂ Member.Writes (members.map Member.ofParts)
      ((members.map (memberText colon)).map String.toList) := by
  rw [List.map_map, List.forall₂_map_left_iff, List.forall₂_map_right_iff, List.forall₂_same]
  intro part _
  refine ⟨[], gap, isSpaces_nil, hGap, ?_⟩
  simp [Member.ofParts, memberText, hColon]

theorem writesObject_objectBlock (indent : Nat) (members : List (String × String)) :
    WritesObject (members.map Member.ofParts) (objectBlock indent members).toList := by
  obtain ⟨inner, hInner, hEq⟩ := exists_separated_block "\x7b" "\x7d" indent
    (members.map (memberText ": "))
  have hColon : ": ".toList = [':', ' '] := rfl
  exact ⟨_, inner, forall₂_memberText hColon (List.forall_mem_singleton.mpr rfl) members, hInner,
    hEq⟩

theorem writesObject_writeObject (members : List (String × String)) :
    WritesObject (members.map Member.ofParts) (writeObject members).toList := by
  have hColon : ":".toList = [':'] := rfl
  refine ⟨_, _, forall₂_memberText hColon isSpaces_nil members, separated_commas _, ?_⟩
  rw [writeObject, String.toList_append, String.toList_append]
  rfl

/-- An object is a record of the parts that its last members are. -/
theorem WritesObject.writesRecord {parts : List RecordPart} {own others : List (String × String)}
    {text : List Char} (h : WritesObject ((others ++ own).map Member.ofParts) text)
    (hOwn : List.Forall₂ (fun part m => part.name = m.1 ∧ part.Writes m.2.toList) parts own)
    (hOthers : ∀ m ∈ others, IsJson m.2.toList ∧ ∀ part ∈ parts, part.name ≠ m.1) :
    WritesRecord parts text := by
  refine ⟨_, own.map Member.ofParts, others.map Member.ofParts, h, ?_, ?_, ?_⟩
  · rw [List.map_append]
    exact List.perm_append_comm
  · rw [List.forall₂_map_right_iff]
    refine hOwn.imp fun part m hPart => ⟨?_, hPart.2⟩
    rw [hPart.1]
    exact Member.writesString_key m
  · intro m hm
    obtain ⟨other, hOther, rfl⟩ := List.mem_map.mp hm
    obtain ⟨hJson, hNames⟩ := hOthers other hOther
    exact ⟨hJson, other.1, Member.writesString_key other, hNames⟩

theorem writesRecord_objectBlock {parts : List RecordPart} {own others : List (String × String)}
    (indent : Nat)
    (hOwn : List.Forall₂ (fun part m => part.name = m.1 ∧ part.Writes m.2.toList) parts own)
    (hOthers : ∀ m ∈ others, IsJson m.2.toList ∧ ∀ part ∈ parts, part.name ≠ m.1) :
    WritesRecord parts (objectBlock indent (others ++ own)).toList :=
  (writesObject_objectBlock indent (others ++ own)).writesRecord hOwn hOthers

theorem writesRecord_writeObject {parts : List RecordPart} {members : List (String × String)}
    (h : List.Forall₂ (fun part m => part.name = m.1 ∧ part.Writes m.2.toList) parts members) :
    WritesRecord parts (writeObject members).toList :=
  WritesObject.writesRecord (writesObject_writeObject ([] ++ members)) h nofun

theorem writesList_listBlock {α : Type} {Writes : α → List Char → Prop} {values : List α}
    {elements : List String} (indent : Nat)
    (h : List.Forall₂ (fun value element => Writes value element.toList) values elements) :
    WritesList Writes values (listBlock indent elements).toList :=
  ⟨elements.map String.toList, List.forall₂_map_right_iff.mpr h,
    writesArray_listBlock indent elements⟩

end PostSieve.Json
