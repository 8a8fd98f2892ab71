import PostSieve.Proofs.Words
import PostSieve.Rule.Cursor

/-! Scanning a text: where tokens end, the longest token at a place, what a scan takes from a text,
and the words of a whole text. -/

namespace PostSieve.Rule

/-! ### Where tokens end -/

namespace TokenKind

/-- Whether no token of the kind goes on with the character, wherever it has come to. -/
def stopsAt : TokenKind → Char → Bool
  | name, c => !isNameChar c
  | number, c | age, c | date, c => !isNumericChar c
  | gt, c | lt, c => c != '='
  | _, _ => true

/-- A token that goes on with a character begins a longer one. -/
theorem Language.stopsAt_eq_false {kind kind' : TokenKind} {token rest : List Char} {c : Char}
    (h : kind.Language token) (h' : kind'.Language (token ++ c :: rest)) :
    kind.stopsAt c = false := by
  have hMem : c ∈ token ++ c :: rest := by simp
  have hSame : kind'.lead = kind.lead := by
    obtain ⟨a, tail, rfl, hLead⟩ := h.lead_eq
    obtain ⟨_, _, hEq, hLead'⟩ := h'.lead_eq
    cases hEq
    rw [← hLead, ← hLead']
  cases kind using symbolCases with
  | name =>
    obtain rfl := eq_name_of_lead hSame
    simp [stopsAt, h'.2 c hMem]
  | number => simp [stopsAt, h'.isNumericChar hSame hMem]
  | age => simp [stopsAt, h'.isNumericChar hSame hMem]
  | date => simp [stopsAt, h'.isNumericChar hSame hMem]
  | string =>
    obtain rfl := eq_string_of_lead hSame
    obtain ⟨body, hBody, rfl⟩ := h
    obtain ⟨body', hBody', hEq⟩ := h'
    -- All of the longer string but its last character is its body, the earlier quote included.
    have hTail : body' ++ ['"'] = body ++ ['"'] ++ c :: rest := (List.cons.inj hEq).2.symm
    have hBodies := congrArg List.dropLast hTail
    rw [List.dropLast_concat, List.dropLast_append_of_ne_nil (by simp)] at hBodies
    exact absurd (by simp [hBodies]) hBody'
  | endOfText => exact h.elim
  | symbol kind hs =>
    rw [language_symbol (lead_eq_mark_iff.mp (hSame.trans (lead_eq_mark_iff.mpr hs)))] at h'
    rw [language_symbol hs] at h
    obtain ⟨rfl | rfl, rfl⟩ := text_eq_text_append (h ▸ h'.symm) <;> rfl

end TokenKind

/-! ### The longest token -/

/-- Takes a kind in place of the best so far if it measures more. -/
def better (text : List Char) (best : Option (TokenKind × Nat)) (kind : TokenKind) :
    Option (TokenKind × Nat) :=
  let n := kind.measure text
  match best with
  | some (_, m) => if m < n then some (kind, n) else best
  | none => if 0 < n then some (kind, n) else none

theorem foldl_better_of_le {text : List Char} {kind : TokenKind} {n : Nat} :
    ∀ {kinds : List TokenKind}, (∀ other ∈ kinds, other.measure text ≤ n) →
      kinds.foldl (better text) (some (kind, n)) = some (kind, n)
  | [], _ => rfl
  | other :: kinds, h => by
    rw [List.foldl_cons, better, if_neg (Nat.not_lt.mpr (h other List.mem_cons_self))]
    exact foldl_better_of_le fun k hk => h k (List.mem_cons_of_mem _ hk)

theorem better_lt {text : List Char} {best : Option (TokenKind × Nat)} {kind : TokenKind} {n : Nat}
    (hBest : ∀ found ∈ best, found.2 < n) (h : kind.measure text < n) :
    ∀ found ∈ better text best kind, found.2 < n := by
  intro found hFound
  unfold better at hFound
  simp only at hFound
  split at hFound
  · split at hFound
    · cases hFound
      exact h
    · exact hBest found hFound
  · split at hFound
    · cases hFound
      exact h
    · cases hFound

theorem better_of_lt {text : List Char} {best : Option (TokenKind × Nat)} {kind : TokenKind}
    (hBest : ∀ found ∈ best, found.2 < kind.measure text) (hPos : 0 < kind.measure text) :
    better text best kind = some (kind, kind.measure text) := by
  cases best with
  | none => exact if_pos hPos
  | some found => exact if_pos (hBest found rfl)

theorem foldl_better_of_max {text : List Char} {kind : TokenKind} (hPos : 0 < kind.measure text) :
    ∀ {kinds : List TokenKind} {best : Option (TokenKind × Nat)}, kind ∈ kinds →
      (∀ other ∈ kinds, other ≠ kind → other.measure text < kind.measure text) →
      (∀ found ∈ best, found.2 < kind.measure text) →
      kinds.foldl (better text) best = some (kind, kind.measure text)
  | other :: kinds, best, hMem, hMax, hBest => by
    have hTail := fun k (hk : k ∈ kinds) => hMax k (List.mem_cons_of_mem _ hk)
    rw [List.foldl_cons]
    by_cases hEq : other = kind
    · subst hEq
      rw [better_of_lt hBest hPos]
      refine foldl_better_of_le fun k hk => ?_
      by_cases hk' : k = other
      · rw [hk']
      · exact (hTail k hk hk').le
    · exact foldl_better_of_max hPos ((List.mem_cons.mp hMem).resolve_left (Ne.symm hEq)) hTail
        (better_lt hBest (hMax other List.mem_cons_self hEq))

/-- A kind that measures more than all others is found, whatever their order. -/
theorem longest_of_max {kinds : List TokenKind} {text : List Char} {kind : TokenKind}
    (hMem : kind ∈ kinds) (hPos : 0 < kind.measure text)
    (hMax : ∀ other ∈ kinds, other ≠ kind → other.measure text < kind.measure text) :
    longest kinds text = some (kind, kind.measure text) :=
  foldl_better_of_max hPos hMem hMax fun _ h => nomatch h

theorem mem_scanned {kind : TokenKind} {text : List Char} (h : kind.Language text) :
    kind ∈ TokenKind.scanned := by
  cases kind <;> first | exact h.elim | decide

/-- A token that the text behind it does not go on with is found as the longest. -/
theorem longest_append {kind : TokenKind} {token rest : List Char} (h : kind.Language token)
    (hStop : ∀ c ∈ rest.head?, kind.stopsAt c = true) :
    longest TokenKind.scanned (token ++ rest) = some (kind, token.length) := by
  -- A longer token would go on with the first character behind this one.
  have hLe (other : TokenKind) : other.measure (token ++ rest) ≤ token.length := by
    by_contra hLt
    have hOther := TokenKind.language_take_measure (Nat.zero_lt_of_lt (not_le.mp hLt))
    obtain ⟨n, hn⟩ := Nat.exists_eq_add_of_lt (not_le.mp hLt)
    rw [hn, Nat.add_assoc, List.take_length_add_append] at hOther
    cases rest with
    | nil =>
      have := other.measure_le (token ++ [])
      rw [List.append_nil] at this hLt
      exact hLt this
    | cons c rest =>
      have := h.stopsAt_eq_false hOther
      rw [hStop c rfl] at this
      cases this
  have hEq : kind.measure (token ++ rest) = token.length :=
    Nat.le_antisymm (hLe kind) (TokenKind.length_le_measure h rest)
  have hPos : 0 < token.length := by
    obtain ⟨_, _, rfl, -⟩ := h.lead_eq
    exact Nat.succ_pos _
  rw [← hEq] at hPos ⊢
  refine longest_of_max (mem_scanned h) hPos fun other _ hNe => ?_
  rw [hEq]
  refine lt_of_le_of_ne (hLe other) fun hOther => hNe ?_
  have := TokenKind.language_take_measure (by rw [hOther, ← hEq]; exact hPos)
  rw [hOther, List.take_left] at this
  exact this.unique h

/-! ### Scans -/

theorem takeWhile_isBlank {gap rest : List Char} (hGap : ∀ c ∈ gap, isBlank c = true)
    (hRest : ∀ c ∈ rest.head?, isBlank c = false) : (gap ++ rest).takeWhile isBlank = gap := by
  rw [List.takeWhile_append_of_pos hGap]
  cases rest with
  | nil => exact List.append_nil gap
  | cons c rest => rw [List.takeWhile_cons_of_neg (by simp [hRest c rfl]), List.append_nil]

theorem dropBlanks_append {gap rest : List Char} (hGap : ∀ c ∈ gap, isBlank c = true)
    (hRest : ∀ c ∈ rest.head?, isBlank c = false) : dropBlanks (gap ++ rest) = rest :=
  dropWhile_append_of_head hGap hRest

/-- A token does not begin with a blank. -/
theorem TokenKind.Language.head_not_blank {kind : TokenKind} {token : List Char}
    (h : kind.Language token) (rest : List Char) :
    ∀ c ∈ (token ++ rest).head?, isBlank c = false := by
  obtain ⟨a, tail, rfl, hLead⟩ := h.lead_eq
  intro c hc
  obtain rfl : a = c := Option.some.inj hc
  refine Bool.eq_false_iff.mpr fun hBlank => ?_
  rw [TokenKind.ofChar_of_isBlank hBlank] at hLead
  obtain rfl := TokenKind.eq_endOfText_of_lead hLead.symm
  exact h

theorem TokenKind.stopsAt_blank (kind : TokenKind) {c : Char} (h : isBlank c = true) :
    kind.stopsAt c = true := by
  have hNat := isBlank_toNat h
  have hHyphen : c ≠ '-' := by
    rintro rfl
    exact absurd hNat (by decide)
  have hEquals : c ≠ '=' := by
    rintro rfl
    exact absurd hNat (by decide)
  have hName : isNameChar c = false := by
    rw [← Bool.not_eq_true, isNameChar_iff, isAlpha_iff]
    omega
  have hNumeric : isNumericChar c = false := by
    simp only [isNumericChar, ← Bool.not_eq_true, Bool.or_eq_true, isDigit_iff, isAlpha_iff,
      beq_iff_eq, hHyphen, or_false]
    omega
  cases kind <;> simp [stopsAt, hName, hNumeric, hEquals]

theorem isBlank_eq_false_of_toNat {c : Char} (h : 32 < c.toNat ∧ c.toNat < 133) :
    isBlank c = false := by
  refine Bool.eq_false_iff.mpr fun hBlank => ?_
  have := isBlank_toNat hBlank
  omega

/-- A token does not end with a blank. -/
theorem TokenKind.Language.last_not_blank {kind : TokenKind} {token : List Char}
    (h : kind.Language token) : ∀ c ∈ token.getLast?, isBlank c = false := by
  intro c hLast
  have hMem := List.mem_of_mem_getLast? hLast
  have hNumeric (hLead : kind.lead = .digit) : isBlank c = false := by
    have hChar := h.isNumericChar hLead hMem
    simp only [TokenKind.isNumericChar, Bool.or_eq_true, isDigit_iff, isAlpha_iff,
      beq_iff_eq] at hChar
    apply isBlank_eq_false_of_toNat
    rcases hChar with (hChar | hChar) | rfl
    · omega
    · omega
    · decide
  cases kind using symbolCases with
  | name =>
    have hChar := isNameChar_iff.mp (h.2 c hMem)
    rw [isAlpha_iff] at hChar
    apply isBlank_eq_false_of_toNat
    omega
  | number => exact hNumeric rfl
  | age => exact hNumeric rfl
  | date => exact hNumeric rfl
  | string =>
    obtain ⟨body, -, rfl⟩ := h
    rw [← List.cons_append, List.getLast?_concat] at hLast
    cases hLast
    rfl
  | endOfText => exact h.elim
  | symbol kind hs =>
    have hAll : kind.text.toList.all (!isBlank ·) = true := by cases kind <;> decide
    rw [(language_symbol hs).mp h] at hMem
    simpa using List.all_eq_true.mp hAll c hMem

theorem trimBlanks_eq_self {text : List Char} (hHead : ∀ c ∈ text.head?, isBlank c = false)
    (hLast : ∀ c ∈ text.getLast?, isBlank c = false) : trimBlanks text = text := by
  have hDrop : dropBlanks ([] ++ text) = text := dropBlanks_append nofun hHead
  rw [List.nil_append] at hDrop
  have hReverse : ∀ c ∈ text.reverse.head?, isBlank c = false := by rwa [List.head?_reverse]
  have hDropReverse : dropBlanks ([] ++ text.reverse) = text.reverse :=
    dropBlanks_append nofun hReverse
  rw [List.nil_append] at hDropReverse
  rw [trimBlanks, hDrop, hDropReverse, List.reverse_reverse]

/-- Trimming changes no token: the blanks of a string lie between its quotes. -/
theorem TokenKind.Language.trimBlanks_eq {kind : TokenKind} {token : List Char}
    (h : kind.Language token) : trimBlanks token = token := by
  have hHead := h.head_not_blank []
  rw [List.append_nil] at hHead
  exact trimBlanks_eq_self hHead h.last_not_blank

/-- What a scan takes from a text: blanks and a token of the language of its kind. -/
theorem scan_token {position : Nat} {text rest : List Char} {token : Token}
    (h : scan TokenKind.scanned position text = .token token rest) :
    ∃ gap, (∀ c ∈ gap, isBlank c = true) ∧ text = gap ++ (token.value.toList ++ rest) ∧
      token.kind.Language token.value.toList ∧ token.position = position + byteLength gap ∧
      token.length = byteLength token.value.toList := by
  unfold scan at h
  simp only at h
  split at h
  · cases h
  · split at h
    · cases h
    · rename_i kind n hLongest
      cases h
      obtain ⟨rfl, hPos⟩ := longest_spec hLongest
      have hLanguage := TokenKind.language_take_measure hPos
      refine ⟨text.takeWhile isBlank, fun c hc => List.mem_takeWhile_imp hc, ?_, ?_, rfl, ?_⟩
      · rw [String.toList_ofList, hLanguage.trimBlanks_eq, List.take_append_drop]
        exact (List.takeWhile_append_dropWhile).symm
      · rw [String.toList_ofList, hLanguage.trimBlanks_eq]
        exact hLanguage
      · rw [String.toList_ofList, hLanguage.trimBlanks_eq]

/-- A token behind blanks, with which the text behind it does not go on, is scanned. -/
theorem scan_append {kind : TokenKind} {gap token rest : List Char} (position : Nat)
    (hGap : ∀ c ∈ gap, isBlank c = true) (h : kind.Language token)
    (hStop : ∀ c ∈ rest.head?, kind.stopsAt c = true) :
    scan TokenKind.scanned position (gap ++ (token ++ rest)) =
      .token ⟨kind, String.ofList token, position + byteLength gap, byteLength token⟩ rest := by
  have hHead := h.head_not_blank rest
  have hNe : token ++ rest ≠ [] := by
    obtain ⟨_, _, rfl, -⟩ := h.lead_eq
    exact List.cons_ne_nil _ _
  unfold scan
  simp only [dropBlanks_append hGap hHead, takeWhile_isBlank hGap hHead, if_neg hNe,
    longest_append h hStop, List.take_left, List.drop_left, h.trimBlanks_eq]

theorem dropBlanks_eq_nil_iff {text : List Char} :
    dropBlanks text = [] ↔ ∀ c ∈ text, isBlank c = true := List.dropWhile_eq_nil_iff

/-- Only blanks are left where a scan finds the end of the text. -/
theorem scan_eq_endOfText_iff {kinds : List TokenKind} {position stop : Nat} {text : List Char} :
    scan kinds position text = .stopped (.endOfText stop) ↔
      (∀ c ∈ text, isBlank c = true) ∧ stop = position + byteLength text := by
  unfold scan
  simp only
  split
  · rename_i hNil
    have hBlank := dropBlanks_eq_nil_iff.mp hNil
    rw [List.takeWhile_eq_self_iff.mpr hBlank, Scan.stopped.injEq, Ending.endOfText.injEq]
    exact ⟨fun h => ⟨hBlank, h.symm⟩, fun h => h.2.symm⟩
  · rename_i hNe
    refine ⟨fun h => ?_, fun h => absurd (dropBlanks_eq_nil_iff.mpr h.1) hNe⟩
    split at h <;> cases h

/-! ### The words of a text -/

/-- What a token says, wherever it stands. -/
structure Word where
  kind : TokenKind
  value : String
deriving DecidableEq, Repr

/-- A token without its place. -/
def Token.word (t : Token) : Word := ⟨t.kind, t.value⟩

/-- Whether a word is a token of its kind. -/
def Word.IsLexical (w : Word) : Prop := w.kind.Language w.value.toList

theorem Word.IsLexical.kind_ne {token : Token} (h : token.word.IsLexical) :
    token.kind ≠ .endOfText := by
  intro hEnd
  rw [Word.IsLexical, Token.word, hEnd] at h
  exact h

/-- The words of a text: its tokens without their places and without its end. -/
def wordsOf (text : String) : Except RuleError (List Word) :=
  (Cursor.start text).tokens.1.map fun tokens => tokens.dropLast.map Token.word

namespace TokenStream

theorem scanFrom_stopped {kinds : List TokenKind} {position : Nat} {text : List Char}
    {ending : Ending} (h : scan kinds position text = .stopped ending) :
    scanFrom kinds position text = ⟨[], ending⟩ := by
  rw [scanFrom]
  split
  · rename_i hScan
    cases h.symm.trans hScan
    rfl
  · rename_i hScan
    cases h.symm.trans hScan

theorem scanFrom_token {kinds : List TokenKind} {position : Nat} {text rest : List Char}
    {token : Token} (h : scan kinds position text = .token token rest) :
    scanFrom kinds position text = ⟨token :: (scanFrom kinds token.stop rest).tokens,
      (scanFrom kinds token.stop rest).ending⟩ := by
  rw [scanFrom]
  split
  · rename_i hScan
    cases h.symm.trans hScan
  · rename_i hScan
    cases h.symm.trans hScan
    rfl

end TokenStream

/-- A cursor reads the tokens of the stream in front of it. -/
theorem Cursor.tokens_fst (c : Cursor) : c.tokens.1 = c.stream.toList := by
  fun_induction Cursor.tokens c with
  | case1 c stop h => simp [Cursor.stream, TokenStream.scanFrom_stopped h, TokenStream.toList]
  | case2 c stop h => simp [Cursor.stream, TokenStream.scanFrom_stopped h, TokenStream.toList]
  | case3 c token rest h _ tokens last hTokens ih =>
    rw [hTokens] at ih
    simp only [Cursor.stream] at ih ⊢
    rw [TokenStream.scanFrom_token h, ih]
    cases hEnding : (TokenStream.scanFrom TokenKind.scanned token.stop rest).ending <;>
      simp [TokenStream.toList, hEnding, Except.map]

/-- A text has words when its tokens stop at its end. -/
theorem wordsOf_eq_ok_iff {text : String} {words : List Word} : wordsOf text = .ok words ↔
    (∃ stop, (TokenStream.ofText text).ending = .endOfText stop) ∧
      (TokenStream.ofText text).tokens.map Token.word = words := by
  have hStream : (Cursor.start text).stream = TokenStream.ofText text := rfl
  rw [wordsOf, Cursor.tokens_fst, hStream, TokenStream.toList]
  cases (TokenStream.ofText text).ending with
  | endOfText stop => simp [Except.map]
  | unrecognized stop => simp [Except.map]

theorem kinds_of_wordsOf {text : String} {words : List Word} (h : wordsOf text = .ok words) :
    (TokenStream.ofText text).tokens.map Token.kind = words.map Word.kind := by
  rw [← (wordsOf_eq_ok_iff.mp h).2, List.map_map]
  rfl

/-- What holds of every token scanned holds of the tokens of a text. -/
theorem forall_mem_scanFrom {P : Token → Prop}
    (h : ∀ position text token rest,
      scan TokenKind.scanned position text = .token token rest → P token)
    {position : Nat} {text : List Char} :
    ∀ token ∈ (TokenStream.scanFrom TokenKind.scanned position text).tokens, P token := by
  intro token hMem
  fun_induction TokenStream.scanFrom TokenKind.scanned position text with
  | case1 position text ending hScan => cases hMem
  | case2 position text head rest hScan _ stream ih =>
    rcases List.mem_cons.mp hMem with rfl | hMem
    · exact h position text token rest hScan
    · exact ih hMem

/-- Every token of a text is in the language of its kind. -/
theorem isLexical_of_mem_scanFrom {position : Nat} {text : List Char} :
    ∀ token ∈ (TokenStream.scanFrom TokenKind.scanned position text).tokens,
      token.word.IsLexical := by
  refine forall_mem_scanFrom fun _ _ _ _ hScan => ?_
  obtain ⟨_, -, -, hLanguage, -, -⟩ := scan_token hScan
  exact hLanguage

/-- Every token of a text is as long as its value. -/
theorem length_of_mem_scanFrom {position : Nat} {text : List Char} :
    ∀ token ∈ (TokenStream.scanFrom TokenKind.scanned position text).tokens,
      token.length = byteLength token.value.toList := by
  refine forall_mem_scanFrom fun _ _ _ _ hScan => ?_
  obtain ⟨_, -, -, -, -, hLength⟩ := scan_token hScan
  exact hLength

theorem isLexical_of_wordsOf {text : String} {words : List Word} (h : wordsOf text = .ok words) :
    ∀ word ∈ words, word.IsLexical := by
  obtain ⟨-, rfl⟩ := wordsOf_eq_ok_iff.mp h
  intro word hMem
  obtain ⟨token, hToken, rfl⟩ := List.mem_map.mp hMem
  exact isLexical_of_mem_scanFrom token hToken

end PostSieve.Rule
