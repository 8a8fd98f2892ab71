import Mathlib.Data.String.Basic
import PostSieve.Proofs.Scanning
import PostSieve.Proofs.TokenPatterns

/-! The tokens of a text tile it: each is the longest match of a pattern where it stands, and only
blanks lie between them, up to the end of the text or to a place where no pattern matches. -/

namespace PostSieve.Rule

/-! ### Slices of an encoded text -/

/-- Whether a part of a text lies between two of its bytes, which are boundaries of characters. -/
structure IsSlice (text : String) (start stop : Nat) (part : String) : Prop where
  start_valid : String.Pos.Raw.IsValid text ⟨start⟩
  stop_valid : String.Pos.Raw.IsValid text ⟨stop⟩
  start_le : start ≤ stop
  extract_eq : String.Pos.Raw.extract text ⟨start⟩ ⟨stop⟩ = part

theorem byteLength_eq_utf8Len (text : List Char) : byteLength text = String.utf8Len text := by
  induction text with
  | nil => rfl
  | cons c text ih => rw [byteLength_cons, String.utf8Len_cons, ih, Nat.add_comm]

theorem byteLength_toList (text : String) : byteLength text.toList = text.utf8ByteSize := by
  rw [byteLength_eq_utf8Len, String.utf8Len_toList]

theorem byteLength_eq_zero {text : List Char} (h : byteLength text = 0) : text = [] := by
  rw [byteLength_eq_utf8Len] at h
  exact String.utf8Len_eq_zero.mp h

/-- Parts in front of a byte of a text are the same. -/
theorem append_inj_of_byteLength {s s' t t' : List Char} (h : s ++ t = s' ++ t')
    (hLength : byteLength s = byteLength s') : s = s' ∧ t = t' := by
  rcases List.append_eq_append_iff.mp h with ⟨middle, rfl, rfl⟩ | ⟨middle, rfl, rfl⟩ <;>
    rw [byteLength_append] at hLength
  · obtain rfl : middle = [] := byteLength_eq_zero (by omega)
    simp
  · obtain rfl : middle = [] := byteLength_eq_zero (by omega)
    simp

/-- Of two parts in front of bytes of a text, the one in front of the earlier byte begins the
other. -/
theorem exists_append_of_byteLength_le {s s' t t' : List Char} (h : s ++ t = s' ++ t')
    (hLe : byteLength s ≤ byteLength s') : ∃ middle, s' = s ++ middle ∧ t = middle ++ t' := by
  rcases List.append_eq_append_iff.mp h with ⟨middle, hFront, hBack⟩ | ⟨overlap, rfl, rfl⟩
  · exact ⟨middle, hFront, hBack⟩
  · rw [byteLength_append] at hLe
    obtain rfl : overlap = [] := byteLength_eq_zero (by omega)
    exact ⟨[], by simp, by simp⟩

theorem isValid_of_append {text : String} {before after : List Char}
    (h : text.toList = before ++ after) : String.Pos.Raw.IsValid text ⟨byteLength before⟩ := by
  refine String.Pos.Raw.isValid_iff_exists_append.mpr
    ⟨String.ofList before, String.ofList after, ?_, ?_⟩
  · rw [← String.ofList_append, ← h, String.ofList_toList]
  · rw [String.rawEndPos_ofList, byteLength_eq_utf8Len]

theorem exists_append_of_isValid {text : String} {position : Nat}
    (h : String.Pos.Raw.IsValid text ⟨position⟩) :
    ∃ before after, text.toList = before ++ after ∧ position = byteLength before := by
  obtain ⟨before, after, rfl, hPosition⟩ := String.Pos.Raw.isValid_iff_exists_append.mp h
  refine ⟨before.toList, after.toList, String.toList_append, ?_⟩
  rw [byteLength_toList]
  exact congrArg String.Pos.Raw.byteIdx hPosition

theorem le_of_isValid {text : String} {position : Nat}
    (h : String.Pos.Raw.IsValid text ⟨position⟩) :
    position ≤ text.utf8ByteSize := by
  obtain ⟨before, after, hText, rfl⟩ := exists_append_of_isValid h
  rw [← byteLength_toList, hText, byteLength_append]
  exact Nat.le_add_right _ _

theorem isSlice_of_append {text : String} {before part after : List Char}
    (h : text.toList = before ++ (part ++ after)) :
    IsSlice text (byteLength before) (byteLength before + byteLength part)
      (String.ofList part) where
  start_valid := isValid_of_append h
  stop_valid := by
    rw [← byteLength_append]
    exact isValid_of_append (h.trans (List.append_assoc ..).symm)
  start_le := Nat.le_add_right _ _
  extract_eq := by
    rw [byteLength_eq_utf8Len, byteLength_eq_utf8Len, ← String.extract_of_valid before part after,
      List.append_assoc, ← h, String.ofList_toList]

theorem IsSlice.exists_append {text part : String} {start stop : Nat}
    (h : IsSlice text start stop part) : ∃ before after,
      text.toList = before ++ (part.toList ++ after) ∧ start = byteLength before ∧
        stop = start + byteLength part.toList := by
  obtain ⟨before, rest, hStart, rfl⟩ := exists_append_of_isValid h.start_valid
  obtain ⟨until', after, hStop, rfl⟩ := exists_append_of_isValid h.stop_valid
  have hLe := h.start_le
  obtain ⟨middle, rfl, rfl⟩ := exists_append_of_byteLength_le (hStart.symm.trans hStop) hLe
  have hPart := (isSlice_of_append hStart).extract_eq
  rw [← byteLength_append, h.extract_eq] at hPart
  subst hPart
  rw [String.toList_ofList]
  exact ⟨before, after, hStart, rfl, byteLength_append before middle⟩

/-! ### The longest measure -/

/-- The length of the token found so far. -/
def measured (best : Option (TokenKind × Nat)) : Nat := best.elim 0 Prod.snd

theorem measured_better (text : List Char) (best : Option (TokenKind × Nat)) (kind : TokenKind) :
    measured (better text best kind) = max (measured best) (kind.measure text) := by
  cases best with
  | none =>
    by_cases h : 0 < kind.measure text <;> simp [better, measured, h]
    omega
  | some found =>
    by_cases h : found.2 < kind.measure text
    · simp [better, measured, h]
      omega
    · simp [better, measured, h]
      omega

theorem le_measured_foldl {text : List Char} {kinds : List TokenKind}
    {best : Option (TokenKind × Nat)} :
    measured best ≤ measured (kinds.foldl (better text) best) ∧
      ∀ kind ∈ kinds, kind.measure text ≤ measured (kinds.foldl (better text) best) := by
  induction kinds generalizing best with
  | nil => exact ⟨Nat.le_refl _, nofun⟩
  | cons kind kinds ih =>
    obtain ⟨hBest, hKinds⟩ := @ih (better text best kind)
    rw [measured_better] at hBest
    rw [List.foldl_cons, List.forall_mem_cons]
    exact ⟨by omega, by omega, hKinds⟩

/-- No kind measures more than the longest token. -/
theorem measure_le_longest {kinds : List TokenKind} {text : List Char} {kind : TokenKind}
    (h : kind ∈ kinds) : kind.measure text ≤ measured (longest kinds text) :=
  le_measured_foldl.2 kind h

/-! ### Tokens where they stand -/

/-- Whether only blanks lie between two bytes of a text. -/
def IsGap (text : String) (start stop : Nat) : Prop :=
  ∃ gap, IsSlice text start stop gap ∧ ∀ c ∈ gap.toList, isBlank c = true

/-- Whether a token is what stands in the text at its place: a match of the pattern of its kind, and
the longest match there of any pattern. -/
structure IsMunched (text : String) (token : Token) : Prop where
  isSlice : IsSlice text token.position token.stop token.value
  length_pos : 0 < token.length
  kind_mem : token.kind ∈ TokenKind.scanned
  isMatch : token.kind.pattern.Matches token.value.toList
  longest : ∀ kind ∈ TokenKind.scanned, ∀ stop part, IsSlice text token.position stop part →
    kind.pattern.Matches part.toList → stop ≤ token.stop

/-- Whether something other than a blank stands at a byte of a text, and no match begins there. -/
structure NoTokenAt (text : String) (position : Nat) : Prop where
  position_lt : position < text.utf8ByteSize
  not_blank : ∃ c, IsSlice text position (position + c.utf8Size) (String.singleton c) ∧
    isBlank c = false
  no_match : ∀ kind ∈ TokenKind.scanned, ∀ stop part, IsSlice text position stop part →
    part ≠ "" → ¬ kind.pattern.Matches part.toList

/-- Whether tokens lie one behind the other in a text, from one byte up to another, with nothing
but blanks in front of each and behind the last. -/
def Tiles (text : String) (start : Nat) : List Token → Nat → Prop
  | [], stop => IsGap text start stop
  | token :: tokens, stop =>
    IsGap text start token.position ∧ IsMunched text token ∧ Tiles text token.stop tokens stop

theorem isGap_of_append {text : String} {before gap after : List Char}
    (h : text.toList = before ++ (gap ++ after)) (hGap : ∀ c ∈ gap, isBlank c = true) :
    IsGap text (byteLength before) (byteLength before + byteLength gap) := by
  refine ⟨String.ofList gap, isSlice_of_append h, ?_⟩
  rwa [String.toList_ofList]

/-- A slice from where a rest of the text begins is the start of that rest. -/
theorem IsSlice.exists_rest {text part : String} {before rest : List Char} {stop : Nat}
    (h : IsSlice text (byteLength before) stop part) (hText : text.toList = before ++ rest) :
    ∃ after, rest = part.toList ++ after ∧ stop = byteLength before + byteLength part.toList := by
  obtain ⟨before', after, hText', hLength, hStop⟩ := h.exists_append
  obtain ⟨-, hRest⟩ := append_inj_of_byteLength (hText.symm.trans hText') hLength
  exact ⟨after, hRest, hStop⟩

/-! ### What one scan finds -/

/-- The token of a scan is the longest where it stands. -/
theorem longest_of_scan {position : Nat} {text rest : List Char} {token : Token}
    (h : scan TokenKind.scanned position text = .token token rest) :
    longest TokenKind.scanned (token.value.toList ++ rest) =
      some (token.kind, token.value.toList.length) := by
  unfold scan at h
  simp only at h
  split at h
  · cases h
  · split at h
    · cases h
    · rename_i kind n hLongest
      cases h
      have hLe := longest_le hLongest
      obtain ⟨rfl, hPos⟩ := longest_spec hLongest
      rw [String.toList_ofList, (TokenKind.language_take_measure hPos).trimBlanks_eq,
        List.take_append_drop, hLongest, List.length_take_of_le hLe]

theorem scan_unrecognized {position stop : Nat} {text : List Char}
    (h : scan TokenKind.scanned position text = .stopped (.unrecognized stop)) :
    ∃ gap c rest, (∀ a ∈ gap, isBlank a = true) ∧ text = gap ++ c :: rest ∧ isBlank c = false ∧
      stop = position + byteLength gap ∧ longest TokenKind.scanned (c :: rest) = none := by
  unfold scan at h
  simp only at h
  split at h
  · cases h
  · rename_i hNe
    split at h
    · rename_i hLongest
      cases h
      obtain ⟨c, rest, hRest⟩ := List.exists_cons_of_ne_nil hNe
      have hText := List.takeWhile_append_dropWhile (p := isBlank) (l := text)
      have hBlank : isBlank c = false := by
        have hHead := List.head?_dropWhile_not isBlank text
        rwa [← dropBlanks, hRest] at hHead
      rw [← dropBlanks, hRest] at hText
      exact ⟨text.takeWhile isBlank, c, rest, fun a ha => List.mem_takeWhile_imp ha, hText.symm,
        hBlank, rfl, hRest ▸ hLongest⟩
    · cases h

theorem isMunched_of_scan {text : String} {before gap rest : List Char} {token : Token}
    (hText : text.toList = before ++ (gap ++ (token.value.toList ++ rest)))
    (hPosition : token.position = byteLength before + byteLength gap)
    (hLength : token.length = byteLength token.value.toList)
    (hLanguage : token.kind.Language token.value.toList)
    (hLongest : longest TokenKind.scanned (token.value.toList ++ rest) =
      some (token.kind, token.value.toList.length)) : IsMunched text token := by
  have hText' : text.toList = (before ++ gap) ++ (token.value.toList ++ rest) := by
    rw [hText, List.append_assoc]
  have hStart : token.position = byteLength (before ++ gap) := by
    rw [hPosition, byteLength_append]
  have hStop : token.stop = byteLength (before ++ gap) + byteLength token.value.toList := by
    rw [Token.stop, hStart, hLength]
  constructor
  case isSlice =>
    have hSlice := isSlice_of_append hText'
    rwa [← hStart, String.ofList_toList, hStart, ← hStop, ← hStart] at hSlice
  case length_pos =>
    obtain ⟨c, tail, hValue, -⟩ := hLanguage.lead_eq
    have := c.utf8Size_pos
    rw [hLength, hValue, byteLength_cons]
    omega
  case kind_mem => exact mem_scanned hLanguage
  case isMatch => exact TokenKind.matches_pattern_iff.mpr hLanguage
  case longest =>
    intro kind hKind stop part hSlice hMatch
    rw [hStart] at hSlice
    obtain ⟨after, hRest, rfl⟩ := hSlice.exists_rest hText'
    -- The match is no longer than what its kind measures here, and so than the token.
    have hPart := TokenKind.length_le_measure (TokenKind.matches_pattern_iff.mp hMatch) after
    have hMeasure : kind.measure _ ≤ measured (longest _ (token.value.toList ++ rest)) :=
      measure_le_longest hKind
    rw [hLongest] at hMeasure
    rw [← hRest] at hPart
    have hPrefix : part.toList <+: token.value.toList := by
      apply List.prefix_of_prefix_length_le ⟨after, hRest.symm⟩ (List.prefix_append _ rest)
      exact hPart.trans hMeasure
    obtain ⟨more, hMore⟩ := hPrefix
    rw [hStop, ← hMore, byteLength_append part.toList more]
    omega

theorem noTokenAt_of_scan {text : String} {before rest : List Char} {c : Char}
    (hText : text.toList = before ++ c :: rest) (hBlank : isBlank c = false)
    (hLongest : longest TokenKind.scanned (c :: rest) = none) :
    NoTokenAt text (byteLength before) := by
  have hSize := c.utf8Size_pos
  constructor
  case position_lt =>
    rw [← byteLength_toList, hText, byteLength_append, byteLength_cons]
    omega
  case not_blank =>
    have hSlice := @isSlice_of_append text before [c] rest hText
    exact ⟨c, by simpa using hSlice, hBlank⟩
  case no_match =>
    intro kind hKind stop part hSlice hNe hMatch
    obtain ⟨after, hRest, -⟩ := hSlice.exists_rest hText
    have hPart := TokenKind.length_le_measure (TokenKind.matches_pattern_iff.mp hMatch) after
    have hMeasure : kind.measure _ ≤ measured (longest _ (c :: rest)) :=
      measure_le_longest hKind
    rw [hLongest] at hMeasure
    rw [← hRest] at hPart
    apply hNe
    have hZero : part.toList.length = 0 := Nat.le_zero.mp (hPart.trans hMeasure)
    exact String.toList_eq_nil_iff.mp (List.length_eq_zero_iff.mp hZero)

/-! ### What all scans find -/

/-- Why the tokens of a text stop: only blanks are left, or no token begins. -/
def Ending.Holds (text : String) : Ending → Prop
  | endOfText position => position = text.utf8ByteSize
  | unrecognized position => NoTokenAt text position

/-- The tokens of the rest of a text tile it. -/
theorem tiles_scanFrom {text : String} {before rest : List Char}
    (hText : text.toList = before ++ rest) :
    let stream := TokenStream.scanFrom TokenKind.scanned (byteLength before) rest
    Tiles text (byteLength before) stream.tokens stream.ending.position ∧
      stream.ending.Holds text := by
  intro stream
  cases hScan : scan TokenKind.scanned (byteLength before) rest with
  | stopped ending =>
    have hStream : stream = ⟨[], ending⟩ := TokenStream.scanFrom_stopped hScan
    rw [hStream]
    cases ending with
    | endOfText stop =>
      obtain ⟨hBlank, rfl⟩ := scan_eq_endOfText_iff.mp hScan
      have hText' : text.toList = before ++ (rest ++ []) := by rw [hText, List.append_nil]
      refine ⟨isGap_of_append hText' hBlank, ?_⟩
      rw [Ending.Holds, ← byteLength_toList, hText, byteLength_append]
    | unrecognized stop =>
      obtain ⟨gap, c, rest, hGap, rfl, hBlank, rfl, hLongest⟩ := scan_unrecognized hScan
      have hText' : text.toList = (before ++ gap) ++ c :: rest := by
        rw [hText, List.append_assoc]
      refine ⟨isGap_of_append hText hGap, ?_⟩
      rw [Ending.Holds, ← byteLength_append]
      exact noTokenAt_of_scan hText' hBlank hLongest
  | token token rest' =>
    obtain ⟨gap, hGap, rfl, hLanguage, hPosition, hLength⟩ := scan_token hScan
    have hShorter := length_lt_of_scan hScan
    have hText' : text.toList = (before ++ gap ++ token.value.toList) ++ rest' := by
      rw [hText, List.append_assoc, List.append_assoc]
    have hStop : token.stop = byteLength (before ++ gap ++ token.value.toList) := by
      rw [Token.stop, hPosition, hLength, byteLength_append, byteLength_append]
    obtain ⟨hTiles, hEnding⟩ := tiles_scanFrom hText'
    rw [← hStop] at hTiles hEnding
    have hStream := TokenStream.scanFrom_token hScan
    change stream = _ at hStream
    rw [hStream]
    refine ⟨⟨?_, ?_, hTiles⟩, hEnding⟩
    · rw [hPosition]
      exact isGap_of_append hText hGap
    · exact isMunched_of_scan hText hPosition hLength hLanguage (longest_of_scan hScan)
termination_by rest.length
decreasing_by
  subst_vars
  exact hShorter

theorem tiles_ofText (text : String) :
    let stream := TokenStream.ofText text
    Tiles text 0 stream.tokens stream.ending.position ∧ stream.ending.Holds text :=
  @tiles_scanFrom text [] text.toList rfl

theorem IsGap.le {text : String} {start stop : Nat} (h : IsGap text start stop) : start ≤ stop := by
  obtain ⟨_, hSlice, -⟩ := h
  exact hSlice.start_le

/-- A slice of a gap is blank. -/
theorem IsGap.blank {text part : String} {start stop first last : Nat} (h : IsGap text start stop)
    (hSlice : IsSlice text first last part) (hFirst : start ≤ first) (hLast : last ≤ stop) :
    ∀ c ∈ part.toList, isBlank c = true := by
  obtain ⟨gap, hGapSlice, hBlank⟩ := h
  obtain ⟨before, after, hText, rfl, rfl⟩ := hGapSlice.exists_append
  obtain ⟨before', after', hText', rfl, rfl⟩ := hSlice.exists_append
  have hSplit := hText.symm.trans hText'
  obtain ⟨middle, rfl, hRest⟩ := exists_append_of_byteLength_le hSplit hFirst
  rw [← List.append_assoc] at hRest
  have hLe : byteLength (middle ++ part.toList) ≤ byteLength gap.toList := by
    rw [byteLength_append] at hLast ⊢
    omega
  obtain ⟨rest, hGap, -⟩ := exists_append_of_byteLength_le hRest.symm hLe
  intro c hc
  apply hBlank
  rw [hGap]
  simp [hc]

namespace IsMunched

variable {text : String} {token : Token}

theorem language (h : IsMunched text token) : token.kind.Language token.value.toList :=
  TokenKind.matches_pattern_iff.mp h.isMatch

theorem kind_ne (h : IsMunched text token) : token.kind ≠ .endOfText := by
  intro hEnd
  have hMem := h.kind_mem
  rw [hEnd] at hMem
  exact absurd hMem (by decide)

theorem value_ne (h : IsMunched text token) : token.value ≠ "" := by
  intro hEmpty
  obtain ⟨c, tail, hValue, -⟩ := h.language.lead_eq
  simp [hEmpty] at hValue

/-- A token is in no gap, since it does not begin with a blank. -/
theorem not_isGap {start stop : Nat} (h : IsMunched text token) (hStart : start ≤ token.position)
    (hStop : token.stop ≤ stop) : ¬ IsGap text start stop := by
  intro hGap
  have hBlank := hGap.blank h.isSlice hStart hStop
  have hHead := h.language.head_not_blank []
  obtain ⟨c, tail, hValue, -⟩ := h.language.lead_eq
  rw [hValue] at hBlank hHead
  exact Bool.false_ne_true ((hHead c rfl).symm.trans (hBlank c List.mem_cons_self))

end IsMunched

namespace Tiles

variable {text : String} {start stop : Nat} {tokens : List Token} {token other : Token}

theorem isMunched (h : Tiles text start tokens stop) (hMem : token ∈ tokens) :
    IsMunched text token := by
  induction tokens generalizing start with
  | nil => cases hMem
  | cons head tokens ih =>
    obtain ⟨-, hHead, hTail⟩ := h
    rcases List.mem_cons.mp hMem with rfl | hMem
    · exact hHead
    · exact ih hTail hMem

theorem le_position (h : Tiles text start tokens stop) (hMem : token ∈ tokens) :
    start ≤ token.position := by
  induction tokens generalizing start with
  | nil => cases hMem
  | cons head tokens ih =>
    obtain ⟨hGap, -, hTail⟩ := h
    rcases List.mem_cons.mp hMem with rfl | hMem
    · exact hGap.le
    · have := ih hTail hMem
      have := hGap.le
      rw [Token.stop] at *
      omega

/-- The tokens behind the first `k` ones tile what lies behind these. -/
theorem drop (h : Tiles text start tokens stop) (k : Nat) :
    Tiles text (((tokens.take k).getLast?.map Token.stop).getD start) (tokens.drop k) stop := by
  induction tokens generalizing start k with
  | nil =>
    rw [List.take_nil, List.drop_nil]
    exact h
  | cons head tokens ih =>
    cases k with
    | zero => exact h
    | succ k =>
      rw [List.take_succ_cons, List.drop_succ_cons, List.getLast?_cons, Option.map_some,
        Option.getD_some, ← Option.getD_map Token.stop]
      exact ih h.2.2 k

/-- Tokens that tile a text do not overlap. -/
theorem apart (h : Tiles text start tokens stop) (hMem : token ∈ tokens) (hOther : other ∈ tokens) :
    token = other ∨ token.stop ≤ other.position ∨ other.stop ≤ token.position := by
  induction tokens generalizing start with
  | nil => cases hMem
  | cons head tokens ih =>
    obtain ⟨-, -, hTail⟩ := h
    rcases List.mem_cons.mp hMem with rfl | hBehind <;>
      rcases List.mem_cons.mp hOther with rfl | hOtherBehind
    · exact .inl rfl
    · exact .inr (.inl (hTail.le_position hOtherBehind))
    · exact .inr (.inr (hTail.le_position hBehind))
    · exact ih hTail hBehind hOtherBehind

end Tiles

/-- Tokenizing a text tiles it with the longest matches of the patterns of the token kinds, up to
the end of the text or up to a place where none begins. What a kind measures is the match that its
pattern prefers, and that match is the longest. -/
theorem ofText_tiles (text : String) :
    let stream := TokenStream.ofText text
    Tiles text 0 stream.tokens stream.ending.position ∧
    (stream.ending = .endOfText text.utf8ByteSize ∧
        (Cursor.start text).tokens.1 = .ok (stream.tokens ++ [Token.endAt text.utf8ByteSize]) ∨
      ∃ position, stream.ending = .unrecognized position ∧
        (Cursor.start text).tokens.1 = .error (.unrecognizedToken position) ∧
        NoTokenAt text position) ∧
    ∀ kind ∈ TokenKind.scanned, ∀ rest, kind.measure rest = kind.pattern.measure rest ∧
      ∀ token after, rest = token ++ after → kind.pattern.Matches token →
        token.length ≤ kind.pattern.measure rest := by
  intro stream
  obtain ⟨hTiles, hEnding⟩ := @tiles_scanFrom text [] text.toList rfl
  change Tiles text 0 stream.tokens stream.ending.position at hTiles
  change stream.ending.Holds text at hEnding
  have hTokens : (Cursor.start text).tokens.1 = stream.toList := Cursor.tokens_fst _
  refine ⟨hTiles, ?_, ?_⟩
  · rw [hTokens, TokenStream.toList]
    cases hKind : stream.ending with
    | endOfText position =>
      rw [hKind] at hEnding
      obtain rfl : position = text.utf8ByteSize := hEnding
      exact Or.inl ⟨rfl, rfl⟩
    | unrecognized position =>
      rw [hKind] at hEnding
      exact Or.inr ⟨position, rfl, rfl, hEnding⟩
  · intro kind _ rest
    refine ⟨(kind.measure_pattern rest).symm, ?_⟩
    rintro token after rfl hMatch
    exact TokenKind.length_le_measure_pattern hMatch after

end PostSieve.Rule
