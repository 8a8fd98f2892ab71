import PostSieve.Proofs.Acceptance
import PostSieve.Proofs.Lockstep

/-! Blanks in rules: words with blanks between them are scanned back as they are, and texts that
have the same words are read alike, wherever the words stand. -/

namespace PostSieve.Rule

open Calendar (Instant)

/-! ### Words with blanks between them -/

/-- Whether a text is words with one blank or more between them, and any blanks in front of the
first and behind the last. -/
inductive Spaced : List Word → List Char → Prop
  | nil {gap : List Char} : (∀ c ∈ gap, isBlank c = true) → Spaced [] gap
  | single {gap gap' : List Char} {word : Word} : (∀ c ∈ gap, isBlank c = true) →
      (∀ c ∈ gap', isBlank c = true) → Spaced [word] (gap ++ (word.value.toList ++ gap'))
  | cons {gap gap' rest : List Char} {word : Word} {words : List Word} :
      (∀ c ∈ gap, isBlank c = true) → (∀ c ∈ gap', isBlank c = true) → gap' ≠ [] →
      Spaced words rest → Spaced (word :: words) (gap ++ (word.value.toList ++ (gap' ++ rest)))

theorem scan_gap_append {kinds : List TokenKind} {position : Nat} {gap text : List Char}
    (hGap : ∀ c ∈ gap, isBlank c = true) :
    scan kinds position (gap ++ text) = scan kinds (position + byteLength gap) text := by
  have hDrop : dropBlanks (gap ++ text) = dropBlanks text := List.dropWhile_append_of_pos hGap
  unfold scan
  simp only [List.takeWhile_append_of_pos hGap, hDrop, byteLength_append, Nat.add_assoc]

theorem Scans.gap_append {words : List Word} {gap rest : List Char}
    (hGap : ∀ c ∈ gap, isBlank c = true) (h : Scans words rest) : Scans words (gap ++ rest) := by
  intro position
  obtain ⟨tokens, stop, hTokens, hWords⟩ := h (position + byteLength gap)
  refine ⟨tokens, stop, ?_, hWords⟩
  rw [← hTokens]
  have hScan := @scan_gap_append TokenKind.scanned position gap rest hGap
  cases hHead : scan TokenKind.scanned position (gap ++ rest) with
  | stopped ending =>
    exact (TokenStream.scanFrom_stopped hHead).trans
      (TokenStream.scanFrom_stopped (hScan.symm.trans hHead)).symm
  | token token rest' =>
    exact (TokenStream.scanFrom_token hHead).trans
      (TokenStream.scanFrom_token (hScan.symm.trans hHead)).symm

theorem Spaced.scans {words : List Word} {text : List Char} (h : Spaced words text)
    (hLexical : ∀ word ∈ words, word.IsLexical) : Scans words text := by
  have hStop {gap : List Char} (hGap : ∀ c ∈ gap, isBlank c = true) (kind : TokenKind) :
      ∀ c ∈ gap.head?, kind.stopsAt c = true :=
    fun c hc => kind.stopsAt_blank (hGap c (List.mem_of_mem_head? hc))
  induction h with
  | nil hGap => exact .nil hGap
  | single hGap hGap' =>
    exact .cons hGap (hLexical _ List.mem_cons_self) (hStop hGap' _) (.nil hGap')
  | @cons gap gap' rest word words hGap hGap' hNe _ ih =>
    rw [List.forall_mem_cons] at hLexical
    refine .cons hGap hLexical.1 ?_ ((ih hLexical.2).gap_append hGap')
    rw [List.head?_append_of_ne_nil _ hNe]
    exact hStop hGap' word.kind

/-! ### Texts with the same words -/

theorem conditionOf_alike {R : Token → Token → Prop} (hR : Corresponds R) (now : Instant) :
    MeansAlike R now now := by
  intro name name' op op' literal literal' hName hOp hLiteral
  unfold conditionOf
  rw [hR.value_eq hName, hR.kind_eq hOp, hR.kind_eq hLiteral, hR.value_eq hLiteral]
  split
  · exact .error (hR.invalid hName .unknownName)
  · rename_i field _
    split
    · exact .error (hR.invalid hOp (.operatorNotOf field))
    · split
      · exact .error (hR.invalid hLiteral (.literalNotOf field))
      · split
        · exact .ok rfl
        · exact .error (hR.invalid hLiteral _)

/-- The search for an unbalanced parenthesis ends alike among tokens that correspond. -/
theorem unmatchedParen_alike {R : Token → Token → Prop} (hR : Corresponds R)
    {tokens tokens' : List Token} (hTokens : List.Forall₂ R tokens tokens')
    {opened opened' : List Nat}
    (hOpened : List.Forall₂ (fun place place' => ∃ token token', R token token' ∧
      token.position = place ∧ token'.position = place') opened opened') :
    Option.Rel (RuleError.Alike R) (unmatchedParen opened tokens)
      (unmatchedParen opened' tokens') := by
  induction hTokens generalizing opened opened' with
  | nil =>
    cases hOpened with
    | nil => exact .none
    | cons hPlace _ =>
      obtain ⟨token, token', hToken, rfl, rfl⟩ := hPlace
      exact .some ⟨token, token', hToken, rfl, rfl⟩
  | @cons token token' tokens tokens' hToken _ ih =>
    have hKind := hR.kind_eq hToken
    by_cases hOpen : token.kind = .openParen
    · rw [unmatchedParen_openParen hOpen, unmatchedParen_openParen (hKind.trans hOpen)]
      exact ih (.cons ⟨token, token', hToken, rfl, rfl⟩ hOpened)
    by_cases hClose : token.kind = .closeParen
    · rw [unmatchedParen_closeParen hClose, unmatchedParen_closeParen (hKind.trans hClose)]
      cases hOpened with
      | nil => exact .some ⟨token, token', hToken, rfl, rfl⟩
      | cons _ hOpened => exact ih hOpened
    · rw [unmatchedParen_other hOpen hClose,
        unmatchedParen_other (hKind ▸ hOpen) (hKind ▸ hClose)]
      exact ih hOpened

/-- The parentheses of two texts that are tokens to their ends are checked alike. -/
theorem checkParens_alike {R : Token → Token → Prop} (hR : Corresponds R) {text text' : String}
    {stop stop' : Nat} (hEnding : (TokenStream.ofText text).ending = .endOfText stop)
    (hEnding' : (TokenStream.ofText text').ending = .endOfText stop')
    (hTokens : List.Forall₂ R (TokenStream.ofText text).tokens (TokenStream.ofText text').tokens) :
    Both (RuleError.Alike R) (fun _ _ => True) (checkParens text) (checkParens text') := by
  have hFind : findUnbalanced [] false 0 text.toList =
      unmatchedParen [] (TokenStream.ofText text).tokens :=
    findUnbalanced_eq_unmatchedParen hEnding []
  have hFind' : findUnbalanced [] false 0 text'.toList =
      unmatchedParen [] (TokenStream.ofText text').tokens :=
    findUnbalanced_eq_unmatchedParen hEnding' []
  have hFound := unmatchedParen_alike hR hTokens .nil
  rw [← hFind, ← hFind'] at hFound
  unfold checkParens
  generalize findUnbalanced [] false 0 text.toList = found at hFound
  generalize findUnbalanced [] false 0 text'.toList = found' at hFound
  cases hFound with
  | some h => exact .error h
  | none => exact .ok trivial

/-- Whether two tokens stand at the same index and differ in their places alone. -/
def SameIndex (tokens tokens' : List Token) (token token' : Token) : Prop :=
  token' = token.movedTo token'.position ∧
    ∃ i : Nat, tokens[i]? = some token ∧ tokens'[i]? = some token'

theorem sameIndex_corresponds (tokens tokens' : List Token) :
    Corresponds (SameIndex tokens tokens') := fun _ _ h => h.1

theorem Token.eq_movedTo {token token' : Token} (hWord : token'.word = token.word)
    (hLength : token'.length = token.length) : token' = token.movedTo token'.position := by
  obtain ⟨kind, value, position, length⟩ := token
  obtain ⟨kind', value', position', length'⟩ := token'
  obtain ⟨rfl, rfl⟩ := Word.mk.inj hWord
  obtain rfl : length' = length := hLength
  rfl

/-- Tokens as long as their values, with the same words, differ in their places alone. -/
theorem forall₂_movedTo : ∀ {tokens tokens' : List Token},
    (∀ token ∈ tokens, token.length = byteLength token.value.toList) →
    (∀ token' ∈ tokens', token'.length = byteLength token'.value.toList) →
    tokens'.map Token.word = tokens.map Token.word →
    List.Forall₂ (fun token token' => token' = token.movedTo token'.position) tokens tokens'
  | [], [], _, _, _ => .nil
  | [], _ :: _, _, _, h => nomatch h
  | _ :: _, [], _, _, h => nomatch h
  | token :: tokens, token' :: tokens', hLength, hLength', h => by
    rw [List.forall_mem_cons] at hLength hLength'
    obtain ⟨hWord, hWords⟩ := List.cons.inj h
    have hValue : token'.value = token.value := congrArg Word.value hWord
    refine .cons (Token.eq_movedTo hWord ?_) (forall₂_movedTo hLength.2 hLength'.2 hWords)
    rw [hLength.1, hLength'.1, hValue]

theorem forall₂_sameIndex {tokens tokens' : List Token} (rest rest' : List Token)
    (h : List.Forall₂ (fun token token' => token' = token.movedTo token'.position)
      tokens tokens') :
    List.Forall₂ (SameIndex (tokens ++ rest) (tokens' ++ rest')) tokens tokens' := by
  refine List.forall₂_iff_get.mpr ⟨h.length_eq, fun i hi hi' => ⟨h.get hi hi', i, ?_, ?_⟩⟩
  · rw [List.getElem?_append_left hi, List.getElem?_eq_getElem hi, List.get_eq_getElem]
  · rw [List.getElem?_append_left hi', List.getElem?_eq_getElem hi', List.get_eq_getElem]

/-- The tokens of two texts with the same words correspond index by index, and so do their ends. -/
theorem ofText_alike {text text' : String} {stop stop' : Nat}
    (hEnding : (TokenStream.ofText text).ending = .endOfText stop)
    (hEnding' : (TokenStream.ofText text').ending = .endOfText stop')
    (hWords : (TokenStream.ofText text').tokens.map Token.word =
      (TokenStream.ofText text).tokens.map Token.word) :
    (TokenStream.ofText text).Alike
      (SameIndex ((TokenStream.ofText text).tokens ++ [.endAt stop])
        ((TokenStream.ofText text').tokens ++ [.endAt stop'])) (TokenStream.ofText text') := by
  have hMoved := forall₂_movedTo length_of_mem_scanFrom length_of_mem_scanFrom hWords
  refine ⟨forall₂_sameIndex _ _ hMoved, ?_, ?_⟩
  · rw [hEnding, hEnding']
    rfl
  · rw [hEnding, hEnding']
    exact ⟨rfl, _, List.getElem?_concat_length, hMoved.length_eq ▸ List.getElem?_concat_length⟩

/-- Whether an error is about a token of a text, and another is the same about the token of the same
index in another text. -/
def RuleError.AtSameToken (text text' : String) (e e' : RuleError) : Prop :=
  ∃ (tokens tokens' : List Token) (i : Nat) (token token' : Token),
    (Cursor.start text).tokens.1 = .ok tokens ∧ (Cursor.start text').tokens.1 = .ok tokens' ∧
    tokens[i]? = some token ∧ tokens'[i]? = some token' ∧
    e.position = token.position ∧ e' = e.movedTo token'.position

theorem tokens_of_ending {text : String} {stop : Nat}
    (h : (TokenStream.ofText text).ending = .endOfText stop) :
    (Cursor.start text).tokens.1 = .ok ((TokenStream.ofText text).tokens ++ [.endAt stop]) := by
  have hStream : (Cursor.start text).stream = TokenStream.ofText text := rfl
  rw [Cursor.tokens_fst, hStream, TokenStream.toList, h]

theorem read_alike_of_wordsOf {text text' : String} {words : List Word}
    (h : wordsOf text = .ok words) (h' : wordsOf text' = .ok words) (options : Options) :
    Both (RuleError.AtSameToken text text')
      (fun rule rule' => rule'.tree = rule.tree ∧ rule'.nodeCount = rule.nodeCount)
      (Rule.read options text) (Rule.read options text') := by
  obtain ⟨⟨stop, hEnding⟩, rfl⟩ := wordsOf_eq_ok_iff.mp h
  obtain ⟨⟨stop', hEnding'⟩, hWords⟩ := wordsOf_eq_ok_iff.mp h'
  have hStream := ofText_alike hEnding hEnding' hWords
  have hR := sameIndex_corresponds ((TokenStream.ofText text).tokens ++ [.endAt stop])
    ((TokenStream.ofText text').tokens ++ [.endAt stop'])
  have hRead := @read_alike _ options options.now text text' hR (conditionOf_alike hR options.now)
    hStream (checkParens_alike hR hEnding hEnding' hStream.tokens)
  refine hRead.mono (fun e e' hError => ?_) fun _ _ hRule => hRule
  obtain ⟨token, token', ⟨-, i, hToken, hToken'⟩, hPosition, hMoved⟩ := hError
  exact ⟨_, _, i, token, token', tokens_of_ending hEnding, tokens_of_ending hEnding', hToken,
    hToken', hPosition, hMoved⟩

/-- The layout of a rule does not matter: the words of a text with any blanks between them are its
words again, and texts with the same words are read to the same tree and the same count of nodes, or
both fail with the same error, at tokens of the same index. -/
theorem read_layout {text : String} {words : List Word} (h : wordsOf text = .ok words) :
    (∀ text' : String, Spaced words text'.toList → wordsOf text' = .ok words) ∧
    ∀ text', wordsOf text' = .ok words → ∀ options,
      Both (RuleError.AtSameToken text text')
        (fun rule rule' => rule'.tree = rule.tree ∧ rule'.nodeCount = rule.nodeCount)
        (Rule.read options text) (Rule.read options text') :=
  ⟨fun _ hSpaced => (hSpaced.scans (isLexical_of_wordsOf h)).wordsOf_eq,
    fun _ h' options => read_alike_of_wordsOf h h' options⟩

theorem Phrase.sample_spaced : Spaced sample.words
    "likes > 3 && ( retweets == 5 || likes < 9\n )".toList := by
  have hNil : ∀ c ∈ ([] : List Char), isBlank c = true := nofun
  have hBlank : ∀ c ∈ [' '], isBlank c = true := List.forall_mem_singleton.mpr rfl
  have hLines : ∀ c ∈ ['\n', ' '], isBlank c = true := List.forall_mem_cons.mpr ⟨rfl, hBlank⟩
  have hNe {c : Char} {gap : List Char} : c :: gap ≠ [] := List.cons_ne_nil c gap
  exact .cons hNil hBlank hNe <| .cons hNil hBlank hNe <| .cons hNil hBlank hNe <|
    .cons hNil hBlank hNe <| .cons hNil hBlank hNe <| .cons hNil hBlank hNe <|
    .cons hNil hBlank hNe <| .cons hNil hBlank hNe <| .cons hNil hBlank hNe <|
    .cons hNil hBlank hNe <| .cons hNil hBlank hNe <| .cons hNil hLines hNe <| .single hNil hNil

theorem read_layout_sample :
    let text := "likes > 3 && (retweets == 5 || likes < 9)"
    let text' := "likes > 3 && ( retweets == 5 || likes < 9\n )"
    ∃ words, wordsOf text = .ok words ∧ Spaced words text'.toList ∧ wordsOf text' = .ok words ∧
      ∀ options, Both (RuleError.AtSameToken text text')
        (fun rule rule' => rule'.tree = rule.tree ∧ rule'.nodeCount = rule.nodeCount)
        (Rule.read options text) (Rule.read options text') := by
  intro text text'
  obtain ⟨hWords, hRead⟩ := read_layout Phrase.wordsOf_sample
  have hWords' := hWords text' Phrase.sample_spaced
  exact ⟨_, Phrase.wordsOf_sample, Phrase.sample_spaced, hWords', hRead text' hWords'⟩

end PostSieve.Rule
