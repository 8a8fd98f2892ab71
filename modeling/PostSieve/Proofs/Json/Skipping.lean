import PostSieve.Json.Decoder
import PostSieve.Proofs.Json.Strings
import Mathlib.Data.Nat.Init

/-! Skipping values: every well-formed value is skipped up to its end, to whatever depth it
nests. -/

namespace PostSieve.Json

/-! ### Numbers -/

def EndsDigits (rest : List Char) : Prop := ∀ c ∈ rest.head?, c.isDigit = false

/-- Whether nothing comes next that could belong to a number. -/
def EndsNumber (rest : List Char) : Prop :=
  EndsDigits rest ∧ ∀ c ∈ rest.head?, c ≠ '.' ∧ c ≠ 'e' ∧ c ≠ 'E'

theorem EndsValue.endsNumber {rest : List Char} (h : EndsValue rest) : EndsNumber rest := by
  have hChar : ∀ c ∈ rest.head?, c.isDigit = false ∧ c ≠ '.' ∧ c ≠ 'e' ∧ c ≠ 'E' := by
    intro c hc
    rcases h c hc with hSpace | rfl | rfl | rfl
    · refine ⟨Bool.eq_false_iff.mpr fun hDigit => ?_, ?_⟩
      · rw [isSpace_of_isDigit hDigit] at hSpace
        cases hSpace
      · refine ⟨?_, ?_, ?_⟩ <;> rintro rfl <;> exact absurd hSpace (by decide)
    all_goals decide
  exact ⟨fun c hc => (hChar c hc).1, fun c hc => (hChar c hc).2⟩

theorem spanDigits_append {digits rest : List Char} (hDigits : ∀ c ∈ digits, c.isDigit = true)
    (hRest : EndsDigits rest) : spanDigits (digits ++ rest) = (digits, rest) := by
  rw [spanDigits, List.takeWhile_append_of_pos hDigits, List.dropWhile_append_of_pos hDigits]
  cases rest with
  | nil => simp
  | cons c rest => simp [hRest c rfl]

theorem skipExponent_none {rest : List Char} (h : EndsNumber rest) :
    skipExponent rest = .ok rest := by
  unfold skipExponent
  split
  case h_7 => rfl
  all_goals
    have hLetter := (h.2 _ rfl).2
    simp at hLetter

theorem skipExponent_sign {letter : Char} {sign digits rest : List Char}
    (hLetter : letter = 'e' ∨ letter = 'E') (hSign : sign = [] ∨ sign = ['+'] ∨ sign = ['-'])
    (hDigits : IsDigits digits) (hRest : EndsDigits rest) :
    skipExponent (letter :: (sign ++ (digits ++ rest))) = .ok rest := by
  have hSpan := spanDigits_append hDigits.2 hRest
  obtain ⟨c, tail, rfl⟩ := List.exists_cons_of_ne_nil hDigits.1
  have hDigit := hDigits.2 c List.mem_cons_self
  have hPlus : c ≠ '+' := by rintro rfl; exact absurd hDigit (by decide)
  have hMinus : c ≠ '-' := by rintro rfl; exact absurd hDigit (by decide)
  rw [List.cons_append] at hSpan ⊢
  rcases hLetter with rfl | rfl <;> rcases hSign with rfl | rfl | rfl <;>
    simp [skipExponent, hSpan, hPlus, hMinus]

theorem IsExponent.skip {exponent rest : List Char} (h : IsExponent exponent)
    (hRest : EndsNumber rest) : skipExponent (exponent ++ rest) = .ok rest := by
  rcases h with rfl | ⟨letter, sign, digits, hLetter, hSign, hDigits, rfl⟩
  · exact skipExponent_none hRest
  · rw [List.cons_append, List.append_assoc]
    exact skipExponent_sign hLetter hSign hDigits hRest.1

/-- An exponent does not begin as digits or as a fraction do. -/
theorem IsExponent.head {exponent rest : List Char} (h : IsExponent exponent)
    (hRest : EndsNumber rest) :
    ∀ c ∈ (exponent ++ rest).head?, c.isDigit = false ∧ c ≠ '.' := by
  rcases h with rfl | ⟨letter, sign, digits, hLetter, -, -, rfl⟩
  · intro c hc
    exact ⟨hRest.1 c hc, (hRest.2 c hc).1⟩
  · intro c hc
    cases hc
    rcases hLetter with rfl | rfl <;> decide

theorem skipNumber_whole {whole rest : List Char} (hWhole : IsWhole whole)
    (hRest : ∀ c ∈ rest.head?, c.isDigit = false ∧ c ≠ '.') :
    skipNumber (whole ++ rest) = skipExponent rest := by
  have hSpan := spanDigits_append hWhole.1.2 fun c hc => (hRest c hc).1
  unfold skipNumber
  rw [hSpan]
  split
  · rename_i hEq
    exact absurd (Prod.mk.inj hEq).1 hWhole.1.1
  · rename_i hEq
    cases hWhole.2 _ (Prod.mk.inj hEq).1
  · rename_i hEq
    obtain rfl := (Prod.mk.inj hEq).2
    exact absurd rfl (hRest '.' rfl).2
  · rename_i hEq
    rw [(Prod.mk.inj hEq).2]

theorem skipNumber_fraction {whole digits rest : List Char} (hWhole : IsWhole whole)
    (hDigits : IsDigits digits) (hRest : EndsDigits rest) :
    skipNumber (whole ++ '.' :: (digits ++ rest)) = skipExponent rest := by
  have hSpan := spanDigits_append hDigits.2 hRest
  have hPoint : EndsDigits ('.' :: (digits ++ rest)) := by
    intro c hc
    cases hc
    rfl
  unfold skipNumber
  rw [spanDigits_append hWhole.1.2 hPoint]
  split
  · rename_i hEq
    exact absurd (Prod.mk.inj hEq).1 hWhole.1.1
  · rename_i hEq
    cases hWhole.2 _ (Prod.mk.inj hEq).1
  · rename_i hEq
    cases (Prod.mk.inj hEq).2
    rw [hSpan]
    split
    · rename_i hEmpty
      exact absurd (Prod.mk.inj hEmpty).1 hDigits.1
    · rename_i hEq'
      rw [(Prod.mk.inj hEq').2]
  · rename_i hNoPoint hEq
    cases (Prod.mk.inj hEq).2
    exact absurd rfl (hNoPoint _)

/-- A well-formed number is skipped after its sign. -/
theorem skipNumber_parts {whole fraction exponent rest : List Char} (hWhole : IsWhole whole)
    (hFraction : IsFraction fraction) (hExponent : IsExponent exponent)
    (hRest : EndsNumber rest) :
    skipNumber (whole ++ (fraction ++ (exponent ++ rest))) = .ok rest := by
  have hHead := hExponent.head hRest
  rcases hFraction with rfl | ⟨digits, hDigits, rfl⟩
  · rw [List.nil_append, skipNumber_whole hWhole hHead]
    exact hExponent.skip hRest
  · rw [List.cons_append, skipNumber_fraction hWhole hDigits fun c hc => (hHead c hc).1]
    exact hExponent.skip hRest

/-! ### What a value begins with -/

theorem skipWord_append (word rest : List Char) : skipWord word (word ++ rest) = .ok rest := by
  induction word with
  | nil => rfl
  | cons c word ih => rw [List.cons_append, skipWord, if_pos rfl, ih]

theorem headWord_append {text rest : List Char} {word : String}
    (shorter : (word.toList ++ rest).length < text.length) :
    ∃ shorter' : rest.length < text.length,
      headWord word (word.toList ++ rest) shorter = .ok (.scalar rest shorter') := by
  have hWord := skipWord_append word.toList rest
  refine ⟨Nat.lt_of_le_of_lt (length_of_skipWord hWord) shorter, ?_⟩
  unfold headWord
  split
  · rename_i hFound
    cases hWord.symm.trans hFound
    rfl
  · rename_i hFound
    cases hWord.symm.trans hFound

/-- Whether the first value of a text is one without parts, and what follows it. -/
def BeginsScalar (text rest : List Char) : Prop :=
  ∃ shorter, skipHead text = .ok (.scalar rest shorter)

theorem beginsScalar_word {text rest : List Char} {c : Char} {word : String}
    (h : (c, word) ∈ [('n', "ull"), ('t', "rue"), ('f', "alse")])
    (hText : skipSpace text = c :: (word.toList ++ rest)) : BeginsScalar text rest := by
  simp only [List.mem_cons, Prod.mk.injEq, List.not_mem_nil, or_false] at h
  unfold BeginsScalar skipHead
  split
  · rename_i hNil
    cases hText.symm.trans hNil
  · rename_i hCons
    cases hText.symm.trans hCons
    rcases h with ⟨rfl, rfl⟩ | ⟨rfl, rfl⟩ | ⟨rfl, rfl⟩ <;> exact headWord_append _

theorem beginsScalar_string {text rest cs mid : List Char} (hText : skipSpace text = '"' :: mid)
    (h : Reads (readChars false) mid cs rest) : BeginsScalar text rest := by
  obtain ⟨shorter, hChars⟩ := h
  refine ⟨Nat.lt_trans shorter (length_lt_of_skipSpace hText), ?_⟩
  unfold skipHead
  split
  · rename_i hNil
    cases hText.symm.trans hNil
  · rename_i hCons
    cases hText.symm.trans hCons
    dsimp only
    rw [hChars]
    rfl

theorem beginsScalar_negative {text rest digits : List Char}
    (hText : skipSpace text = '-' :: digits) (h : skipNumber digits = .ok rest) :
    BeginsScalar text rest := by
  have shorter := Nat.lt_trans (length_of_skipNumber h) (length_lt_of_skipSpace hText)
  refine ⟨shorter, ?_⟩
  unfold skipHead
  split
  · rename_i hNil
    cases hText.symm.trans hNil
  · rename_i hCons
    cases hText.symm.trans hCons
    split
    case h_7 =>
      split
      · rename_i hNumber
        cases h.symm.trans hNumber
        rfl
      · rename_i hNumber
        cases h.symm.trans hNumber
    case h_8 =>
      rename_i hOther
      exact (hOther _ rfl HEq.rfl).elim
    all_goals
      rename_i hEq _
      exact absurd hEq (by decide)

theorem beginsScalar_digit {text rest digits : List Char} {c : Char} (hDigit : c.isDigit = true)
    (hText : skipSpace text = c :: digits) (h : skipNumber (c :: digits) = .ok rest) :
    BeginsScalar text rest := by
  rw [← hText] at h
  refine ⟨Nat.lt_of_lt_of_le (length_of_skipNumber h) (length_skipSpace_le text), ?_⟩
  unfold skipHead
  split
  · rename_i hNil
    cases hText.symm.trans hNil
  · rename_i hCons
    cases hText.symm.trans hCons
    split
    case h_8 =>
      rw [if_pos hDigit]
      split
      · rename_i hNumber
        cases h.symm.trans hNumber
        rfl
      · rename_i hNumber
        cases h.symm.trans hNumber
    all_goals exact absurd hDigit (by decide)

theorem skipHead_array {text rest : List Char} (hText : skipSpace text = '[' :: rest) :
    ∃ shorter, skipHead text = .ok (.array rest shorter) := by
  refine ⟨length_lt_of_skipSpace hText, ?_⟩
  unfold skipHead
  split
  · rename_i hNil
    cases hText.symm.trans hNil
  · rename_i hCons
    cases hText.symm.trans hCons
    rfl

theorem skipHead_object {text rest : List Char} (hText : skipSpace text = '\x7b' :: rest) :
    ∃ shorter, skipHead text = .ok (.object rest shorter) := by
  refine ⟨length_lt_of_skipSpace hText, ?_⟩
  unfold skipHead
  split
  · rename_i hNil
    cases hText.symm.trans hNil
  · rename_i hCons
    cases hText.symm.trans hCons
    rfl

/-! ### Brackets -/

/-- What is left of a text when what is awaited has been skipped, with the brackets around it. -/
def skipped (awaited : Awaited) (objects : List Bool) (text : List Char) :
    Except Error (List Char) :=
  (skipNested awaited objects text).map Subtype.val

/-- What is left does not change when only the proof that it is short enough does. -/
theorem skipped_of_bind {awaited : Awaited} {objects : List Bool} {text : List Char}
    {Short : List Char → Prop}
    {next : { rest : List Char // rest.length + awaited.least ≤ text.length } →
      Except Error { rest : List Char // Short rest }}
    (h : ∀ r, (next r).map Subtype.val = .ok r.1) :
    (skipNested awaited objects text >>= next).map Subtype.val = skipped awaited objects text := by
  rw [skipped]
  cases skipNested awaited objects text with
  | error e => rfl
  | ok r => exact h r

/-- The bracket that closes an object or an array. -/
def closingMark (object : Bool) : Char := if object then '\x7d' else ']'

/-- What each item of an object or an array begins with. -/
def awaitedIn (object : Bool) : Awaited := if object then .key else .value

variable {objects : List Bool} {object : Bool} {text rest : List Char}

theorem skipped_done : skipped .next [] text = .ok text := by
  rw [skipped, skipNested]
  rfl

theorem skipped_scalar (h : BeginsScalar text rest) :
    skipped .value objects text = skipped .next objects rest := by
  obtain ⟨shorter, hHead⟩ := h
  rw [skipped, skipNested, hHead]
  exact @skipped_of_bind .next objects rest _ _ fun _ => rfl

theorem skipped_comma (h : skipSpace text = ',' :: rest) :
    skipped .next (object :: objects) text =
      skipped (awaitedIn object) (object :: objects) rest := by
  rw [skipped, skipNested]
  split
  · rename_i hNil
    cases h.symm.trans hNil
  · rename_i hCons
    cases h.symm.trans hCons
    exact @skipped_of_bind (awaitedIn object) (object :: objects) rest _ _ fun _ => rfl

theorem skipped_close (h : skipSpace text = closingMark object :: rest) :
    skipped .next (object :: objects) text = skipped .next objects rest := by
  have hComma : closingMark object ≠ ',' := by cases object <;> decide
  rw [skipped, skipNested]
  split
  · rename_i hNil
    cases h.symm.trans hNil
  · rename_i hCons
    cases h.symm.trans hCons
    rw [if_neg hComma, if_pos (by rfl)]
    exact @skipped_of_bind .next objects rest _ _ fun _ => rfl

/-- The bracket that opens an object or an array. -/
def openingMark (object : Bool) : Char := if object then '\x7b' else '['

theorem skipClosing_some {closing : Char} (h : skipSpace text = closing :: rest) :
    ∃ shorter, skipClosing closing text = .ok (some ⟨rest, shorter⟩) := by
  refine ⟨length_lt_of_skipSpace h, ?_⟩
  unfold skipClosing
  split
  · rename_i hNil
    cases h.symm.trans hNil
  · rename_i hCons
    cases h.symm.trans hCons
    rw [if_pos rfl]

theorem skipClosing_none {closing c : Char} (h : skipSpace text = c :: rest) (hc : c ≠ closing) :
    skipClosing closing text = .ok none := by
  unfold skipClosing
  split
  · rename_i hNil
    cases h.symm.trans hNil
  · rename_i hCons
    cases h.symm.trans hCons
    rw [if_neg hc]

theorem skipped_empty {rest' : List Char} (h : skipSpace text = openingMark object :: rest)
    (hRest : skipSpace rest = closingMark object :: rest') :
    skipped .value objects text = skipped .next objects rest' := by
  obtain ⟨shorter, hClose⟩ := skipClosing_some hRest
  rw [skipped, skipNested]
  cases object with
  | false =>
    obtain ⟨shorter', hHead⟩ := skipHead_array h
    have hClose : skipClosing ']' rest = .ok (some ⟨rest', shorter⟩) := hClose
    rw [hHead]
    simp only [Bind.bind, Except.bind, hClose]
    exact @skipped_of_bind .next objects rest' _ _ fun _ => rfl
  | true =>
    obtain ⟨shorter', hHead⟩ := skipHead_object h
    have hClose : skipClosing '\x7d' rest = .ok (some ⟨rest', shorter⟩) := hClose
    rw [hHead]
    simp only [Bind.bind, Except.bind, hClose]
    exact @skipped_of_bind .next objects rest' _ _ fun _ => rfl

theorem skipped_open {rest' : List Char} {c : Char}
    (h : skipSpace text = openingMark object :: rest) (hRest : skipSpace rest = c :: rest')
    (hc : c ≠ closingMark object) :
    skipped .value objects text = skipped (awaitedIn object) (object :: objects) rest := by
  have hClose := skipClosing_none hRest hc
  rw [skipped, skipNested]
  cases object with
  | false =>
    obtain ⟨shorter', hHead⟩ := skipHead_array h
    have hClose : skipClosing ']' rest = .ok none := hClose
    rw [hHead]
    simp only [Bind.bind, Except.bind, hClose]
    exact @skipped_of_bind .value (false :: objects) rest _ _ fun _ => rfl
  | true =>
    obtain ⟨shorter', hHead⟩ := skipHead_object h
    have hClose : skipClosing '\x7d' rest = .ok none := hClose
    rw [hHead]
    simp only [Bind.bind, Except.bind, hClose]
    exact @skipped_of_bind .key (true :: objects) rest _ _ fun _ => rfl

theorem reads_skipKey {mid chars cs : List Char} (hText : skipSpace text = '"' :: chars)
    (hChars : Reads (readChars false) chars cs mid) (hColon : skipSpace mid = ':' :: rest) :
    Reads skipKey text () rest := by
  obtain ⟨shorter, hChars⟩ := hChars
  have hLt := length_lt_of_skipSpace hText
  have hLt' := length_lt_of_skipSpace hColon
  refine ⟨by omega, ?_⟩
  unfold skipKey
  split
  · rename_i hNil
    cases hText.symm.trans hNil
  · rename_i hCons
    cases hText.symm.trans hCons
    simp only [hChars, Bind.bind, Except.bind]
    split
    · rename_i hNil
      cases hColon.symm.trans hNil
    · rename_i hCons'
      cases hColon.symm.trans hCons'
      rfl
    · rename_i hOther
      exact absurd hColon (hOther rest)
  · rename_i hOther
    exact absurd hText (hOther chars)

/-- The name of a member and its colon. -/
theorem skipped_key {key before spaces : List Char} (hSpaces : IsSpaces spaces)
    (hKey : IsString key) (hBefore : IsSpaces before) :
    skipped .key objects (spaces ++ (key ++ (before ++ ':' :: rest))) =
      skipped .value objects rest := by
  obtain ⟨body, rfl, hBody⟩ := hKey.exists_reads
  obtain ⟨cs, hChars⟩ := hBody (before ++ ':' :: rest)
  rw [List.cons_append]
  have hText := @skipSpace_append_cons spaces (body ++ (before ++ ':' :: rest)) '"' hSpaces rfl
  obtain ⟨shorter, hRead⟩ := reads_skipKey hText hChars (skipSpace_append_cons hBefore rfl)
  rw [skipped, skipNested, hRead]
  exact @skipped_of_bind .value objects rest _ _ fun _ => rfl

/-! ### Values -/

/-- Whether an item between brackets is skipped up to what ends it. -/
def SkipsItem (object : Bool) (item : List Char) : Prop :=
  ∀ objects spaces rest, IsSpaces spaces → EndsValue rest →
    skipped (awaitedIn object) objects (spaces ++ (item ++ rest)) = skipped .next objects rest

theorem closingMark_cases (object : Bool) :
    closingMark object = ']' ∨ closingMark object = '\x7d' := by
  cases object
  · exact Or.inl rfl
  · exact Or.inr rfl

/-- The items behind the first one, and the closing bracket. -/
theorem Continued.skipped_eq {items : List (List Char)} (h : Continued items text)
    (hItems : ∀ item ∈ items, SkipsItem object item) :
    skipped .next (object :: objects) (text ++ closingMark object :: rest) =
      skipped .next objects rest := by
  induction h with
  | done hSpaces =>
    apply skipped_close
    exact skipSpace_append_cons hSpaces (by cases object <;> rfl)
  | @next before after item text items hBefore hAfter hText ih =>
    rw [List.forall_mem_cons] at hItems
    have hComma : skipSpace (before ++ ',' :: (after ++ (item ++ text)) ++
        closingMark object :: rest) =
          ',' :: (after ++ (item ++ (text ++ closingMark object :: rest))) := by
      rw [List.append_assoc, List.cons_append, skipSpace_append_cons hBefore rfl]
      simp only [List.append_assoc]
    rw [skipped_comma hComma,
      hItems.1 _ _ _ hAfter (hText.endsValue (closingMark_cases object))]
    exact ih hItems.2

theorem Separated.skipped_eq {items : List (List Char)} {inner spaces : List Char}
    (h : Separated items inner) (hSpaces : IsSpaces spaces)
    (hStart : ∀ item ∈ items, StartsValue item) (hItems : ∀ item ∈ items, SkipsItem object item) :
    skipped .value objects (spaces ++ (openingMark object :: (inner ++ [closingMark object]) ++
      rest)) = skipped .next objects rest := by
  have hMark : isSpace (openingMark object) = false := by cases object <;> rfl
  have hOpen : skipSpace (spaces ++ (openingMark object :: (inner ++ [closingMark object]) ++
      rest)) = openingMark object :: (inner ++ closingMark object :: rest) := by
    rw [List.cons_append, skipSpace_append_cons hSpaces hMark, List.append_assoc]
    rfl
  cases h with
  | none hInner =>
    exact skipped_empty hOpen (skipSpace_append_cons hInner (by cases object <;> rfl))
  | @some before item text items hBefore hText =>
    rw [List.forall_mem_cons] at hItems hStart
    obtain ⟨c, tail, hItem, hSpace, -, hBracket, hBrace⟩ := hStart.1
    have hFirst : skipSpace (before ++ (item ++ text) ++ closingMark object :: rest) =
        c :: (tail ++ text ++ closingMark object :: rest) := by
      rw [hItem, List.append_assoc, List.cons_append, List.cons_append,
        skipSpace_append_cons hBefore hSpace]
    have hNe : c ≠ closingMark object := by cases object <;> assumption
    rw [skipped_open hOpen hFirst hNe, List.append_assoc, List.append_assoc,
      hItems.1 _ _ _ hBefore (hText.endsValue (closingMark_cases object))]
    exact hText.skipped_eq hItems.2

theorem skipped_scalar_item {item : List Char}
    (h : ∀ spaces rest, IsSpaces spaces → EndsValue rest →
      BeginsScalar (spaces ++ (item ++ rest)) rest) : SkipsItem false item :=
  fun _ spaces rest hSpaces hRest => skipped_scalar (h spaces rest hSpaces hRest)

theorem skipsItem_word {word : String} (h : word ∈ ["null", "true", "false"]) :
    SkipsItem false word.toList := by
  refine skipped_scalar_item fun spaces rest hSpaces _ => ?_
  simp only [List.mem_cons, List.not_mem_nil, or_false] at h
  rcases h with rfl | rfl | rfl
  · exact @beginsScalar_word _ rest 'n' "ull" (by decide) (skipSpace_append_cons hSpaces rfl)
  · exact @beginsScalar_word _ rest 't' "rue" (by decide) (skipSpace_append_cons hSpaces rfl)
  · exact @beginsScalar_word _ rest 'f' "alse" (by decide) (skipSpace_append_cons hSpaces rfl)

theorem IsString.skipsItem (h : IsString text) : SkipsItem false text := by
  obtain ⟨body, rfl, hBody⟩ := h.exists_reads
  refine skipped_scalar_item fun spaces rest hSpaces _ => ?_
  obtain ⟨cs, hChars⟩ := hBody rest
  refine beginsScalar_string ?_ hChars
  rw [List.cons_append, skipSpace_append_cons hSpaces rfl]

theorem IsNumber.skipsItem (h : IsNumber text) : SkipsItem false text := by
  obtain ⟨sign, whole, fraction, exponent, hSign, hWhole, hFraction, hExponent, rfl⟩ := h
  refine skipped_scalar_item fun spaces rest hSpaces hRest => ?_
  have hSkip := skipNumber_parts hWhole hFraction hExponent hRest.endsNumber
  rcases hSign with rfl | rfl
  · obtain ⟨c, tail, rfl⟩ := List.exists_cons_of_ne_nil hWhole.1.1
    have hDigit := hWhole.1.2 c List.mem_cons_self
    refine beginsScalar_digit hDigit ?_ hSkip
    rw [List.nil_append, List.cons_append, List.cons_append,
      skipSpace_append_cons hSpaces (isSpace_of_isDigit hDigit), List.append_assoc,
      List.append_assoc]
    rfl
  · refine beginsScalar_negative ?_ hSkip
    simp only [List.cons_append, List.nil_append, List.append_assoc,
      skipSpace_append_cons hSpaces (show isSpace '-' = false from rfl)]

/-- A member of an object is its name and its value. -/
theorem Member.Writes.skipsItem {m : Member} {item : List Char} (h : m.Writes item)
    (hKey : IsString m.key) (hValue : SkipsItem false m.value) : SkipsItem true item := by
  obtain ⟨before, after, hBefore, hAfter, rfl⟩ := h
  intro objects spaces rest hSpaces hRest
  have hAppend : m.key ++ (before ++ ':' :: (after ++ m.value)) ++ rest =
      m.key ++ (before ++ ':' :: (after ++ (m.value ++ rest))) := by
    simp only [List.append_assoc, List.cons_append]
  rw [hAppend]
  show skipped .key objects _ = _
  rw [skipped_key hSpaces hKey hBefore]
  exact hValue objects after rest hAfter hRest

theorem Member.Writes.startsValue {m : Member} {item : List Char} (h : m.Writes item)
    (hKey : IsString m.key) : StartsValue item := by
  obtain ⟨before, after, -, -, rfl⟩ := h
  exact hKey.startsValue.append _

theorem forall_mem_of_forall₂ {α β : Type} {R : α → β → Prop} {P : β → Prop} {as : List α}
    {bs : List β} (h : List.Forall₂ R as bs) (hEach : ∀ a ∈ as, ∀ b, R a b → P b) :
    ∀ b ∈ bs, P b := by
  induction h with
  | nil => exact nofun
  | cons hHead _ ih =>
    rw [List.forall_mem_cons] at hEach ⊢
    exact ⟨hEach.1 _ hHead, ih hEach.2⟩

/-- Every well-formed value is skipped, whatever brackets it stands in. -/
theorem IsJson.skipsItem (h : IsJson text) : SkipsItem false text := by
  induction h with
  | word h => exact skipsItem_word h
  | number h => exact h.skipsItem
  | string h => exact h.skipsItem
  | @array items text hArray hItems ih =>
    obtain ⟨inner, hInner, rfl⟩ := hArray
    intro objects spaces rest hSpaces _
    exact @Separated.skipped_eq objects false rest items inner spaces hInner hSpaces
      (fun item h => (hItems item h).startsValue) ih
  | @object members text hObject hKeys hValues ih =>
    obtain ⟨items, inner, hMembers, hInner, rfl⟩ := hObject
    intro objects spaces rest hSpaces _
    have hStart : ∀ item ∈ items, StartsValue item :=
      forall_mem_of_forall₂ hMembers fun m hm item hItem => hItem.startsValue (hKeys m hm)
    have hSkip : ∀ item ∈ items, SkipsItem true item :=
      forall_mem_of_forall₂ hMembers fun m hm item hItem => hItem.skipsItem (hKeys m hm) (ih m hm)
    exact @Separated.skipped_eq objects true rest items inner spaces hInner hSpaces hStart hSkip

theorem IsJson.reads_skipValue {value spaces : List Char} (h : IsJson value)
    (hSpaces : IsSpaces spaces) (hRest : EndsValue rest) :
    Reads skipValue (spaces ++ (value ++ rest)) () rest := by
  have hSkip := h.skipsItem [] spaces rest hSpaces hRest
  rw [skipped_done] at hSkip
  change (skipNested .value [] (spaces ++ (value ++ rest))).map Subtype.val = .ok rest at hSkip
  cases hNested : skipNested .value [] (spaces ++ (value ++ rest)) with
  | error e =>
    rw [hNested] at hSkip
    cases hSkip
  | ok r =>
    rw [hNested] at hSkip
    obtain ⟨rest', hLength⟩ := r
    obtain rfl : rest' = rest := Except.ok.inj hSkip
    refine ⟨hLength, ?_⟩
    rw [skipValue, hNested]
    rfl

end PostSieve.Json
