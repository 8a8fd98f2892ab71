import Mathlib.Data.List.Chain
import PostSieve.Proofs.Grammar

/-! Texts that spell words: words with blanks between them are scanned back one by one as long as
none can go on with the beginning of the next, and those of a phrase never can. -/

namespace PostSieve.Rule

/-- Whether a text is words with blanks, or nothing, in front of each and behind the last. -/
inductive Spelled : List Word → List Char → Prop
  | nil {gap : List Char} : (∀ c ∈ gap, isBlank c = true) → Spelled [] gap
  | cons {gap rest : List Char} {word : Word} {words : List Word} :
      (∀ c ∈ gap, isBlank c = true) → Spelled words rest →
      Spelled (word :: words) (gap ++ (word.value.toList ++ rest))

namespace TokenKind

/-- Whether a token of one kind never goes on with the beginning of a token of another. -/
def apart (kind next : TokenKind) : Bool :=
  match kind with
  | name | number | age | date => next.isSymbol
  | _ => !kind.isOperator || !next.isSymbol

theorem mem_marks_of_lead {c : Char} (h : Lead.ofChar c = .mark) : c ∈ marks := by
  unfold Lead.ofChar at h
  split_ifs at h with _ _ _ hMarks
  exact hMarks

theorem stopsAt_of_apart {kind next : TokenKind} (h : kind.apart next = true) {c : Char}
    {rest : List Char} (hNext : next.Language (c :: rest)) : kind.stopsAt c = true := by
  obtain ⟨_, _, hEq, hLead⟩ := hNext.lead_eq
  cases hEq
  -- A mark ends a name and a number, and what does not begin with a mark ends an operator.
  have hMark (hSymbol : next.isSymbol = true) :
      isNameChar c = false ∧ isNumericChar c = false := by
    rw [lead_eq_mark_iff.mpr hSymbol] at hLead
    have hAll : marks.all (fun mark => !isNameChar mark && !isNumericChar mark) = true := by decide
    simpa using List.all_eq_true.mp hAll c (mem_marks_of_lead hLead)
  have hOther (hSymbol : next.isSymbol = false) : (c != '=') = true := by
    refine bne_iff_ne.mpr fun hEquals => ?_
    rw [hEquals] at hLead
    exact absurd (lead_eq_mark_iff.mp hLead.symm) (by simp [hSymbol])
  cases kind with
  | name => simp [stopsAt, (hMark h).1]
  | number => simp [stopsAt, (hMark h).2]
  | age => simp [stopsAt, (hMark h).2]
  | date => simp [stopsAt, (hMark h).2]
  | gt => exact hOther (by simpa [apart, isOperator] using h)
  | lt => exact hOther (by simpa [apart, isOperator] using h)
  | _ => rfl

end TokenKind

/-- Whether a word never goes on with the beginning of the next. -/
def Word.Apart (word next : Word) : Prop := word.kind.apart next.kind = true

theorem Spelled.stopsAt_head {words : List Word} {text : List Char} (h : Spelled words text)
    {kind : TokenKind} (hLexical : ∀ word ∈ words, word.IsLexical)
    (hApart : ∀ next ∈ words.head?, kind.apart next.kind = true) :
    ∀ c ∈ text.head?, kind.stopsAt c = true := by
  intro c hc
  cases h with
  | nil hGap => exact kind.stopsAt_blank (hGap c (List.mem_of_mem_head? hc))
  | @cons gap rest next words hGap _ =>
    cases gap with
    | cons blank gap =>
      obtain rfl : blank = c := Option.some.inj hc
      exact kind.stopsAt_blank (hGap blank List.mem_cons_self)
    | nil =>
      have hNext : next.IsLexical := hLexical next List.mem_cons_self
      obtain ⟨first, tail, hValue, -⟩ := hNext.lead_eq
      rw [hValue] at hc
      obtain rfl : first = c := Option.some.inj hc
      have hLanguage : next.kind.Language (first :: tail) := hValue ▸ hNext
      exact TokenKind.stopsAt_of_apart (hApart next rfl) hLanguage

/-- Whether a text is scanned as some words to its end, wherever it lies. -/
def Scans (words : List Word) (text : List Char) : Prop :=
  ∀ position, ∃ tokens stop, TokenStream.scanFrom TokenKind.scanned position text =
    ⟨tokens, .endOfText stop⟩ ∧ tokens.map Token.word = words

namespace Scans

variable {words : List Word} {gap rest : List Char}

theorem nil (hGap : ∀ c ∈ gap, isBlank c = true) : Scans [] gap := fun position =>
  ⟨[], position + byteLength gap,
    TokenStream.scanFrom_stopped (scan_eq_endOfText_iff.mpr ⟨hGap, rfl⟩), rfl⟩

/-- A word with which the text behind it does not go on is scanned in front of the others. -/
theorem cons {word : Word} (hGap : ∀ c ∈ gap, isBlank c = true) (hLexical : word.IsLexical)
    (hStop : ∀ c ∈ rest.head?, word.kind.stopsAt c = true) (hRest : Scans words rest) :
    Scans (word :: words) (gap ++ (word.value.toList ++ rest)) := by
  intro position
  obtain ⟨token, hScan, hWord⟩ : ∃ token, scan TokenKind.scanned position
      (gap ++ (word.value.toList ++ rest)) = .token token rest ∧ token.word = word := by
    refine ⟨_, scan_append position hGap hLexical hStop, ?_⟩
    rw [Token.word, String.ofList_toList]
  obtain ⟨tokens, stop, hTokens, hWords⟩ := hRest token.stop
  refine ⟨token :: tokens, stop, ?_, ?_⟩
  · rw [TokenStream.scanFrom_token hScan, hTokens]
  · rw [List.map_cons, hWord, hWords]

theorem wordsOf_eq {text : String} (h : Scans words text.toList) : wordsOf text = .ok words := by
  obtain ⟨tokens, stop, hTokens, hWords⟩ := h 0
  rw [wordsOf_eq_ok_iff, TokenStream.ofText, hTokens]
  exact ⟨⟨stop, rfl⟩, hWords⟩

end Scans

/-- Words that are apart are scanned from a text that spells them. -/
theorem Spelled.scans {words : List Word} {text : List Char} (h : Spelled words text)
    (hLexical : ∀ word ∈ words, word.IsLexical) (hApart : words.IsChain Word.Apart) :
    Scans words text := by
  induction h with
  | nil hGap => exact .nil hGap
  | cons hGap hRest ih =>
    rw [List.forall_mem_cons] at hLexical
    rw [List.isChain_cons] at hApart
    have hStop := hRest.stopsAt_head hLexical.2 hApart.1
    exact .cons hGap hLexical.1 hStop (ih hLexical.2 hApart.2)

theorem wordsOf_of_spelled {words : List Word} {text : String} (h : Spelled words text.toList)
    (hLexical : ∀ word ∈ words, word.IsLexical) (hApart : words.IsChain Word.Apart) :
    wordsOf text = .ok words :=
  (h.scans hLexical hApart).wordsOf_eq

/-! ### The spelling of a text -/

/-- A text that is tokens to its end spells their words. -/
theorem spelled_scanFrom {position stop : Nat} {text : List Char}
    (h : (TokenStream.scanFrom TokenKind.scanned position text).ending = .endOfText stop) :
    Spelled ((TokenStream.scanFrom TokenKind.scanned position text).tokens.map Token.word)
      text := by
  fun_induction TokenStream.scanFrom TokenKind.scanned position text with
  | case1 position text ending hScan =>
    obtain rfl : ending = .endOfText stop := h
    exact .nil (scan_eq_endOfText_iff.mp hScan).1
  | case2 position text token rest hScan _ stream ih =>
    obtain ⟨gap, hGap, rfl, -⟩ := scan_token hScan
    exact .cons hGap (ih h)

theorem spelled_of_wordsOf {text : String} {words : List Word} (h : wordsOf text = .ok words) :
    Spelled words text.toList := by
  obtain ⟨⟨stop, hEnding⟩, rfl⟩ := wordsOf_eq_ok_iff.mp h
  exact spelled_scanFrom hEnding

namespace Spelled

variable {words words' : List Word} {text text' gap : List Char}

theorem gap_append (hGap : ∀ c ∈ gap, isBlank c = true) (h : Spelled words text) :
    Spelled words (gap ++ text) := by
  cases h with
  | nil hText => exact .nil (List.forall_mem_append.mpr ⟨hGap, hText⟩)
  | cons hFirst hRest =>
    rw [← List.append_assoc]
    exact .cons (List.forall_mem_append.mpr ⟨hGap, hFirst⟩) hRest

theorem append (h : Spelled words text) (h' : Spelled words' text') :
    Spelled (words ++ words') (text ++ text') := by
  induction h with
  | nil hGap => exact h'.gap_append hGap
  | cons hGap _ ih =>
    rw [List.append_assoc, List.append_assoc]
    exact .cons hGap ih

theorem symbol (kind : TokenKind) (h : Spelled words text) :
    Spelled (.symbol kind :: words) (kind.text.toList ++ text) :=
  @cons [] text (.symbol kind) words (List.forall_mem_nil _) h

end Spelled

/-! ### The words of a phrase are apart -/

namespace TokenKind

theorem name_apart {op : TokenKind} (h : op.isOperator = true) : name.apart op = true := by
  cases op <;> first | rfl | cases h

theorem isOperator_apart {op next : TokenKind} (h : op.isOperator = true) :
    op.apart next = !next.isSymbol := by
  cases op <;> first | cases h; done | simp [apart, isOperator]

theorem isSymbol_of_isLiteral {literal : TokenKind} (h : literal.isLiteral = true) :
    literal.isSymbol = false := by
  cases literal <;> first | rfl | cases h

theorem isLiteral_apart {literal next : TokenKind} (h : literal.isLiteral = true)
    (hNext : next.isSymbol = true) : literal.apart next = true := by
  cases literal <;> first | exact hNext | rfl | cases h

end TokenKind

theorem Condition.isChain_append (c : Condition) {rest : List Word}
    (h : rest.IsChain Word.Apart) (hHead : ∀ next ∈ rest.head?, next.kind.isSymbol = true) :
    (c.words ++ rest).IsChain Word.Apart := by
  simp only [words, List.cons_append, List.nil_append, List.isChain_cons_cons, Word.Apart,
    Word.symbol_kind]
  refine ⟨TokenKind.name_apart c.isOperator, ?_, List.isChain_cons.mpr ⟨?_, h⟩⟩
  · rw [TokenKind.isOperator_apart c.isOperator, TokenKind.isSymbol_of_isLiteral c.isLiteral]
    rfl
  · intro next hNext
    exact TokenKind.isLiteral_apart c.isLiteral (hHead next hNext)

theorem isChain_symbol {kind : TokenKind} (hKind : kind.isOperator = false)
    (hSymbol : kind.isSymbol = true) {words : List Word} (h : words.IsChain Word.Apart) :
    (.symbol kind :: words).IsChain Word.Apart := by
  refine List.isChain_cons.mpr ⟨fun next _ => ?_, h⟩
  rw [Word.Apart, Word.symbol_kind]
  cases kind <;> first | rfl | cases hKind; done | cases hSymbol

/-- The words of a phrase are apart, also from the symbol that follows them. -/
theorem Phrase.isChain_append {level : Level} (p : Phrase level) {rest : List Word}
    (h : rest.IsChain Word.Apart) (hHead : ∀ next ∈ rest.head?, next.kind.isSymbol = true) :
    (p.words ++ rest).IsChain Word.Apart := by
  induction p generalizing rest with
  | condition c => exact c.isChain_append h hHead
  | group inner ih =>
    rw [words, List.cons_append, List.append_assoc]
    refine isChain_symbol rfl rfl (ih (isChain_symbol rfl rfl h) ?_)
    rintro _ ⟨⟩
    rfl
  | single operand ih => exact ih h hHead
  | joined first join others ihFirst ihOthers =>
    have hOperator : join.token.isOperator = false := by cases join <;> rfl
    rw [words, List.append_assoc]
    refine ihFirst (isChain_symbol hOperator join.isSymbol_token (ihOthers h hHead)) ?_
    rintro _ ⟨⟩
    exact join.isSymbol_token

theorem Phrase.isChain_words {level : Level} (p : Phrase level) :
    p.words.IsChain Word.Apart := by
  have h := @isChain_append level p [] List.isChain_nil nofun
  rwa [List.append_nil] at h

theorem Phrase.wordsOf_of_spelled {p : Phrase .chain} {text : String}
    (h : Spelled p.words text.toList) (hLexical : ∀ word ∈ p.words, word.IsLexical) :
    wordsOf text = .ok p.words :=
  Rule.wordsOf_of_spelled h hLexical p.isChain_words

/-! ### Replacing the words of a text -/

/-- A text with each word of it replaced, and the blanks as they are. -/
def respell (f : Word → Word) (position : Nat) (text : List Char) : List Char :=
  match h : scan TokenKind.scanned position text with
  | .stopped _ => text
  | .token token rest =>
    have := length_lt_of_scan h
    text.takeWhile isBlank ++ ((f token.word).value.toList ++ respell f token.stop rest)
termination_by text.length

/-- Replacing the words of a text one by one spells the replacements. -/
theorem spelled_respell (f : Word → Word) {position stop : Nat} {text : List Char}
    (h : (TokenStream.scanFrom TokenKind.scanned position text).ending = .endOfText stop) :
    Spelled (((TokenStream.scanFrom TokenKind.scanned position text).tokens.map Token.word).map f)
      (respell f position text) := by
  fun_induction respell f position text with
  | case1 position text ending hScan =>
    rw [TokenStream.scanFrom_stopped hScan] at h ⊢
    obtain rfl : ending = .endOfText stop := h
    exact .nil (scan_eq_endOfText_iff.mp hScan).1
  | case2 position text token rest hScan _ ih =>
    rw [TokenStream.scanFrom_token hScan] at h ⊢
    exact .cons (fun c hc => List.mem_takeWhile_imp hc) (ih h)

theorem spelled_respell_of_wordsOf (f : Word → Word) {text : String} {words : List Word}
    (h : wordsOf text = .ok words) : Spelled (words.map f) (respell f 0 text.toList) := by
  obtain ⟨⟨stop, hEnding⟩, rfl⟩ := wordsOf_eq_ok_iff.mp h
  exact spelled_respell f hEnding

end PostSieve.Rule
