import PostSieve.Proofs.Cursors
import PostSieve.Proofs.Places
import PostSieve.Proofs.Reading

/-! Faults: where in a rule a reading stops that fails, and for which of the few possible causes.
The words in front of that place lead to it, and the conditions among them mean something. -/

namespace PostSieve.Rule

/-! ### Faults at a place -/

/-- What an error says that the grammar calls for at a place. -/
def Place.expected : Place → Expected
  | ⟨.operand, _⟩ => .token .name
  | ⟨.operator, _⟩ => .operator
  | ⟨.literal, _⟩ => .literal
  | ⟨.join, 0⟩ => .endOfRule
  | ⟨.join, _ + 1⟩ => .token .closeParen

/-- The causes for which a reading stops at a place, where `conditions` were read before and `rest`
is still to be read. -/
inductive FaultAt (options : Options) (conditions : Nat) (rest : TokenStream) :
    Place → RuleError → Prop
  | unrecognized {place : Place} {position : Nat} : rest.tokens = [] →
      rest.ending = .unrecognized position →
      FaultAt options conditions rest place (.unrecognizedToken position)
  | unexpected {place : Place} : rest.check = .ok () → ¬ place.Admits rest.current.kind →
      FaultAt options conditions rest place (.unexpectedToken place.expected rest.current)
  | tooDeep {opened : Nat} : rest.current.kind = .openParen → opened = options.maxDepth →
      FaultAt options conditions rest ⟨.operand, opened⟩
        (.nestingTooDeep options.maxDepth rest.current.position)
  | tooMany {opened : Nat} : rest.check = .ok () → rest.current.kind ≠ .openParen →
      conditions = options.maxConditions → FaultAt options conditions rest ⟨.operand, opened⟩
        (.tooManyConditions options.maxConditions rest.current.position)
  | invalid {opened : Nat} {name op literal token : Token} {tokens : List Token} {fault : Fault} :
      rest.tokens = name :: op :: literal :: tokens → name.kind = .name →
      op.kind.isOperator = true → literal.kind.isLiteral = true →
      token ∈ [name, op, literal] →
      conditionOf options.now name op literal = .error (.invalidCondition fault token) →
      FaultAt options conditions rest ⟨.operand, opened⟩ (.invalidCondition fault token)

/-- Whether words lead from one place in a stream to another, where all conditions among them mean
something, and none of them goes on behind the last word. -/
structure Leads (options : Options) (place : Place) (stream : TokenStream) (words : List Word)
    (place' : Place) (rest : TokenStream) : Prop where
  takes : stream.Takes words rest
  after_eq : place.after (words.map Word.kind) = some place'
  means : ∀ c ∈ conditionsIn words, ∃ tree, c.Means options.now tree
  append_eq : ∀ others, conditionsIn (words ++ others) = conditionsIn words ++ conditionsIn others

/-- Whether all conditions among some words mean something, but for one at the end of the words.
That one is not looked at where text that is no token follows it. -/
def Judged (options : Options) (words : List Word) (rest : TokenStream) : Prop :=
  ∃ judged, (∀ c ∈ conditionsIn judged, ∃ tree, c.Means options.now tree) ∧
    (words = judged ∨ rest.check ≠ .ok () ∧ ∃ c : Condition, words = judged ++ c.words)

/-- Whether a reading from a place on, with `conditions` read before, stops behind some words with
an error, those words having been judged. -/
structure StopsAfter (options : Options) (place : Place) (conditions : Nat) (stream : TokenStream)
    (e : RuleError) (words : List Word) (place' : Place) (rest : TokenStream) : Prop where
  takes : stream.Takes words rest
  after_eq : place.after (words.map Word.kind) = some place'
  judged : Judged options words rest
  fault : FaultAt options (conditions + (conditionsIn words).length) rest place' e

/-- Whether a reading from a place on stops with an error behind some words. -/
def Stops (options : Options) (place : Place) (conditions : Nat) (stream : TokenStream)
    (e : RuleError) : Prop :=
  ∃ words place' rest, StopsAfter options place conditions stream e words place' rest

variable {options : Options} {place place' : Place} {conditions opened : Nat}
  {stream rest : TokenStream} {words : List Word} {e : RuleError}

theorem conditionsIn_cons {word : Word} {others : List Word}
    (h : leadingCondition? (word :: others) = none) :
    conditionsIn (word :: others) = conditionsIn others := by
  rw [conditionsIn, partsIn, h]
  cases Join.ofToken? word.kind <;> rfl

theorem conditionsIn_singleton (word : Word) : conditionsIn [word] = [] := conditionsIn_cons rfl

/-- It takes three words to make a condition. -/
theorem conditionsIn_eq_nil {words : List Word} (h : words.length ≤ 2) :
    conditionsIn words = [] := by
  match words with
  | [] => rfl
  | [word] => exact conditionsIn_singleton word
  | [word, word'] => rw [conditionsIn_cons rfl, conditionsIn_singleton]

theorem TokenStream.Takes.refl (stream : TokenStream) : stream.Takes [] stream :=
  ⟨[], rfl, rfl, rfl⟩

theorem Judged.of_eq_nil (h : conditionsIn words = []) : Judged options words rest := by
  refine ⟨words, ?_, .inl rfl⟩
  rw [h]
  exact List.forall_mem_nil _

/-- A condition in front of text that is no token need not mean anything. -/
theorem Judged.of_words (hCheck : rest.check ≠ .ok ()) (c : Condition) :
    Judged options c.words rest :=
  ⟨[], List.forall_mem_nil _, .inr ⟨hCheck, c, rfl⟩⟩

namespace Leads

theorem trans {place'' : Place} {rest' : TokenStream} {words' : List Word}
    (h : Leads options place stream words place' rest)
    (h' : Leads options place' rest words' place'' rest') :
    Leads options place stream (words ++ words') place'' rest' where
  takes := h.takes.trans h'.takes
  after_eq := by rw [List.map_append, Place.after_append_of_eq h.after_eq, h'.after_eq]
  means := by
    rw [h.append_eq]
    exact List.forall_mem_append.mpr ⟨h.means, h'.means⟩
  append_eq others := by
    rw [List.append_assoc, h.append_eq, h'.append_eq, h.append_eq, List.append_assoc]

/-- A phrase that has been read leads behind an operand. -/
theorem phrase {level : Level} {p : Phrase level} {r : Reading stream} {depth : Nat}
    (h : r.IsOf options depth conditions p) (opened : Nat) :
    Leads options ⟨.operand, opened⟩ stream p.words ⟨.join, opened⟩ r.rest where
  takes := h.takes
  after_eq := p.derives.after opened
  means := by
    rw [p.conditionsIn_eq]
    exact Phrase.exists_means_iff.mp ⟨r.tree, h.means⟩
  append_eq others := by
    rw [p.conditionsIn_eq, conditionsIn, p.partsIn_words, List.filterMap_append,
      p.filterMap_parts]
    rfl

/-- A word that is in no condition leads to the next place. -/
theorem word {word : Word} (hTakes : stream.Takes [word] rest)
    (hStep : place.Step word.kind place') (hName : word.kind ≠ .name) :
    Leads options place stream [word] place' rest := by
  have hConditions (others : List Word) :
      conditionsIn (word :: others) = conditionsIn others :=
    conditionsIn_cons (leadingCondition?_eq_none hName others)
  refine ⟨hTakes, ?_, ?_, fun others => ?_⟩
  · rw [List.map_singleton, Place.after_cons_of_step hStep, Place.after_nil]
  · rw [hConditions]
    exact List.forall_mem_nil _
  · rw [List.singleton_append, hConditions, hConditions]
    rfl

/-- Words that lead to judged ones are judged together with them. -/
theorem judged {rest' : TokenStream} {words' : List Word}
    (h : Leads options place stream words place' rest) (hJudged : Judged options words' rest') :
    Judged options (words ++ words') rest' := by
  obtain ⟨judged, hMeans, hEnd⟩ := hJudged
  refine ⟨words ++ judged, ?_, ?_⟩
  · rw [h.append_eq]
    exact List.forall_mem_append.mpr ⟨h.means, hMeans⟩
  · rcases hEnd with rfl | ⟨hCheck, c, rfl⟩
    · exact .inl rfl
    · exact .inr ⟨hCheck, c, (List.append_assoc ..).symm⟩

/-- A reading that stops behind words that lead there stops behind all of them. -/
theorem stops (h : Leads options place stream words place' rest)
    (hStops : Stops options place' (conditions + (conditionsIn words).length) rest e) :
    Stops options place conditions stream e := by
  obtain ⟨words', place'', rest', hTakes, hAfter, hJudged, hFault⟩ := hStops
  refine ⟨words ++ words', place'', rest', h.takes.trans hTakes, ?_, h.judged hJudged, ?_⟩
  · rw [List.map_append, Place.after_append_of_eq h.after_eq, hAfter]
  · rwa [h.append_eq, List.length_append, ← Nat.add_assoc]

end Leads

namespace FaultAt

theorem of_check (h : rest.check = .error e) : FaultAt options conditions rest place e := by
  obtain ⟨tokens, ending⟩ := rest
  unfold TokenStream.check at h
  split at h
  case h_1 hTokens hEnding =>
    cases h
    exact .unrecognized hTokens hEnding
  case h_2 => cases h

/-- The error of a condition is about one of its tokens. -/
theorem of_conditionOf {name op literal : Token} {tokens : List Token}
    (hTokens : rest.tokens = name :: op :: literal :: tokens) (hName : name.kind = .name)
    (hOp : op.kind.isOperator = true) (hLiteral : literal.kind.isLiteral = true)
    (h : conditionOf options.now name op literal = .error e) :
    FaultAt options conditions rest ⟨.operand, opened⟩ e := by
  have hError : ∃ fault, ∃ token ∈ [name, op, literal], e = .invalidCondition fault token := by
    unfold conditionOf at h
    split at h
    · cases h
      exact ⟨_, name, by simp, rfl⟩
    split at h
    · cases h
      exact ⟨_, op, by simp, rfl⟩
    split at h
    · cases h
      exact ⟨_, literal, by simp, rfl⟩
    split at h
    · cases h
    · cases h
      exact ⟨_, literal, by simp, rfl⟩
  obtain ⟨fault, token, hToken, rfl⟩ := hError
  exact .invalid hTokens hName hOp hLiteral hToken h

theorem stops (h : FaultAt options conditions stream place e) :
    Stops options place conditions stream e :=
  ⟨[], place, stream, .refl stream, rfl, .of_eq_nil rfl, h⟩

/-- Where text that is no token comes next, that is the fault. -/
theorem of_check_ne (h : FaultAt options conditions rest place e) (hCheck : rest.check ≠ .ok ()) :
    rest.tokens = [] ∧ ∃ position, e = .unrecognizedToken position := by
  obtain ⟨tokens, ending⟩ := rest
  cases tokens with
  | cons token tokens => exact absurd rfl hCheck
  | nil =>
    cases h with
    | unrecognized => exact ⟨rfl, _, rfl⟩
    | unexpected hOk => exact absurd hOk hCheck
    | tooDeep hOpen => cases hOpen
    | tooMany hOk => exact absurd hOk hCheck
    | invalid hTokens => cases hTokens

end FaultAt

/-! ### The readers one by one -/

theorem not_admits_operand {kind : TokenKind} (hName : kind ≠ .name)
    (hOpen : kind ≠ .openParen) : ¬ Place.Admits ⟨.operand, opened⟩ kind := by
  rw [Place.admits_iff]
  rintro (⟨_, hStep⟩ | ⟨-, ⟨⟩⟩)
  cases hStep with
  | openParen => exact hOpen rfl
  | name => exact hName rfl

theorem not_admits_operator {kind : TokenKind} (hOp : kind.isOperator = false) :
    ¬ Place.Admits ⟨.operator, opened⟩ kind := by
  rw [Place.admits_iff]
  rintro (⟨_, hStep⟩ | ⟨-, ⟨⟩⟩)
  cases hStep with
  | operator hKind => exact Bool.false_ne_true (hOp.symm.trans hKind)

theorem not_admits_literal {kind : TokenKind} (hLiteral : kind.isLiteral = false) :
    ¬ Place.Admits ⟨.literal, opened⟩ kind := by
  rw [Place.admits_iff]
  rintro (⟨_, hStep⟩ | ⟨-, ⟨⟩⟩)
  cases hStep with
  | literal hKind => exact Bool.false_ne_true (hLiteral.symm.trans hKind)

theorem isLogical_eq_false {kind : TokenKind} (h : Join.ofToken? kind = none) :
    kind.isLogical = false := by
  cases kind <;> first | rfl | cases h

/-- Behind an operand only a join and what ends the group or the rule are admitted. -/
theorem not_admits_join {kind : TokenKind} (hJoin : Join.ofToken? kind = none)
    (hClose : kind = .closeParen → opened = 0) (hEnd : kind = .endOfText → opened ≠ 0) :
    ¬ Place.Admits ⟨.join, opened⟩ kind := by
  rw [Place.admits_iff]
  rintro (⟨_, hStep⟩ | ⟨rfl, hFinish⟩)
  · cases hStep with
    | closeParen => exact absurd (hClose rfl) (Nat.succ_ne_zero _)
    | join hKind => exact Bool.false_ne_true ((isLogical_eq_false hJoin).symm.trans hKind)
  · exact hEnd rfl (congrArg Place.opened hFinish)

/-- What comes of a token that cannot be taken: it is not what the grammar admits, or text that is
no token follows it. -/
theorem take_error {expected : Expected} {accepts : TokenKind → Bool}
    (hEnd : accepts .endOfText = false) (h : take expected accepts stream = .error e) :
    accepts stream.current.kind = false ∧ e = .unexpectedToken expected stream.current ∨
      accepts stream.current.kind = true ∧
        ∃ rest, stream.Takes [stream.current.word] rest ∧ rest.check = .error e := by
  obtain ⟨tokens, ending⟩ := stream
  unfold take at h
  split at h
  · rename_i hTokens
    obtain rfl : tokens = [] := hTokens
    cases h
    exact .inl ⟨hEnd, rfl⟩
  · rename_i token tokens' hTokens
    obtain rfl : tokens = token :: tokens' := hTokens
    split at h
    · rename_i hAccepts
      rcases bind_eq_error_iff.mp h with hCheck | ⟨_, -, ⟨⟩⟩
      exact .inr ⟨hAccepts, ⟨tokens', ending⟩, ⟨[token], rfl, rfl, rfl⟩, hCheck⟩
    · rename_i hAccepts
      cases h
      exact .inl ⟨Bool.eq_false_iff.mpr hAccepts, rfl⟩

/-- A reading that fails to take a token behind some words stops there or behind that token. -/
theorem take_stops {mid : TokenStream} {place₁ : Place} {expected : Expected}
    {accepts : TokenKind → Bool} (h : take expected accepts mid = .error e)
    (hTakes : stream.Takes words mid)
    (hAfter : place.after (words.map Word.kind) = some place₁) (hCheck : mid.check = .ok ())
    (hNone : conditionsIn words = []) (hEnd : accepts .endOfText = false)
    (hRejects : accepts mid.current.kind = false →
      expected = place₁.expected ∧ ¬ place₁.Admits mid.current.kind)
    (hAccepts : accepts mid.current.kind = true → (∃ place₂, place₁.Step mid.current.kind place₂) ∧
      ∀ c ∈ conditionsIn (words ++ [mid.current.word]), words ++ [mid.current.word] = c.words) :
    Stops options place conditions stream e := by
  rcases take_error hEnd h with ⟨hKind, rfl⟩ | ⟨hKind, rest, hToken, hRest⟩
  · obtain ⟨rfl, hAdmits⟩ := hRejects hKind
    exact ⟨words, place₁, mid, hTakes, hAfter, .of_eq_nil hNone, .unexpected hCheck hAdmits⟩
  · obtain ⟨⟨place₂, hStep⟩, hLast⟩ := hAccepts hKind
    refine ⟨words ++ [mid.current.word], place₂, rest, hTakes.trans hToken, ?_, ?_,
      .of_check hRest⟩
    · rw [List.map_append, Place.after_append_of_eq hAfter]
      exact Place.after_cons_of_step hStep
    · by_cases hNil : conditionsIn (words ++ [mid.current.word]) = []
      · exact .of_eq_nil hNil
      · obtain ⟨c, hc⟩ := List.exists_mem_of_ne_nil _ hNil
        rw [hLast c hc]
        exact .of_words (by simp [hRest]) c

/-- A reading that fails to take the first token stops in front of it or behind it. -/
theorem take_stops_here {expected : Expected} {accepts : TokenKind → Bool}
    (h : take expected accepts stream = .error e) (hCheck : stream.check = .ok ())
    (hEnd : accepts .endOfText = false)
    (hRejects : accepts stream.current.kind = false →
      expected = place.expected ∧ ¬ place.Admits stream.current.kind)
    (hAccepts : accepts stream.current.kind = true →
      ∃ place', place.Step stream.current.kind place') :
    Stops options place conditions stream e := by
  refine take_stops h (.refl stream) rfl hCheck rfl hEnd hRejects fun hKind =>
    ⟨hAccepts hKind, ?_⟩
  rw [List.nil_append, conditionsIn_singleton]
  exact List.forall_mem_nil _

theorem tokens_of_take {expected : Expected} {accepts : TokenKind → Bool} {taken : Taken stream}
    (h : take expected accepts stream = .ok taken) :
    stream.tokens = taken.token :: taken.rest.tokens := by
  unfold take at h
  split at h
  · cases h
  · rename_i token tokens hTokens
    split at h
    · obtain ⟨_, -, hTaken⟩ := bind_eq_ok_iff.mp h
      cases hTaken
      exact hTokens
    · cases h

/-- Three words that make a condition are all that it is. -/
theorem eq_words_of_mem {name op literal : Word} (hName : name.kind = .name)
    (hOp : op.kind.isOperator = true) (hLexical : op.IsLexical)
    (hLiteral : literal.kind.isLiteral = true) :
    ∀ c ∈ conditionsIn [name, op, literal], [name, op, literal] = c.words := by
  obtain ⟨kind, value⟩ := name
  obtain rfl : kind = .name := hName
  have hWords : [⟨.name, value⟩, op, literal] =
      (Phrase.condition ⟨value, op.kind, literal, hOp, hLiteral⟩).words := by
    rw [Phrase.words, Condition.words,
      ← hLexical.eq_symbol rfl (TokenKind.isSymbol_of_isOperator hOp)]
  intro c hc
  rw [hWords, Phrase.conditionsIn_eq, Phrase.conditions, List.mem_singleton] at hc
  rw [hc, hWords, Phrase.words]

/-- A reading of a condition fails for the limit, for a token that does not fit, for text that is no
token, or for what the condition says. -/
theorem readCondition_error (hLexical : stream.IsLexical) (hCheck : stream.check = .ok ())
    (hOpen : stream.current.kind ≠ .openParen) (hCount : conditions ≤ options.maxConditions)
    (h : readCondition options conditions stream = .error e) :
    Stops options ⟨.operand, opened⟩ conditions stream e := by
  unfold readCondition at h
  split at h
  · rename_i hLimit
    cases h
    exact (FaultAt.tooMany hCheck hOpen (Nat.le_antisymm hCount hLimit)).stops
  have hNameStep {kind : TokenKind} (hKind : (kind == .name) = true) :
      Place.Step ⟨.operand, opened⟩ kind ⟨.operator, opened⟩ := by
    rw [eq_of_beq hKind]
    exact .name
  have hPair (word word' : Word) : conditionsIn [word, word'] = [] :=
    conditionsIn_eq_nil (Nat.le_refl 2)
  rcases bind_eq_error_iff.mp h with hName | ⟨name, hName, h⟩
  · exact take_stops_here hName hCheck rfl
      (fun hKind => ⟨rfl, not_admits_operand (beq_eq_false_iff_ne.mp hKind) hOpen⟩)
      (fun hKind => ⟨_, hNameStep hKind⟩)
  obtain ⟨hNameTakes, -, hNameKind, hNameCheck⟩ := take_ok hName
  have hBehindName : Place.after ⟨.operand, opened⟩ [name.token.kind] = some ⟨.operator, opened⟩ :=
    Place.after_cons_of_step (hNameStep hNameKind)
  rcases bind_eq_error_iff.mp h with hOp | ⟨op, hOp, h⟩
  · refine take_stops hOp hNameTakes hBehindName hNameCheck (conditionsIn_singleton _) rfl
      (fun hKind => ⟨rfl, not_admits_operator hKind⟩)
      (fun hKind => ⟨⟨_, .operator hKind⟩, ?_⟩)
    rw [List.singleton_append, hPair]
    exact List.forall_mem_nil _
  obtain ⟨hOpTakes, hOpMem, hOpKind, hOpCheck⟩ := take_ok hOp
  have hBehindOp : Place.after ⟨.operand, opened⟩ [name.token.kind, op.token.kind] =
      some ⟨.literal, opened⟩ :=
    (Place.after_cons_of_step (hNameStep hNameKind)).trans
      (Place.after_cons_of_step (.operator hOpKind))
  rcases bind_eq_error_iff.mp h with hLiteral | ⟨literal, hLiteral, h⟩
  · refine take_stops hLiteral (hNameTakes.trans hOpTakes) hBehindOp hOpCheck (hPair _ _) rfl
      (fun hKind => ⟨rfl, not_admits_literal hKind⟩)
      (fun hKind => ⟨⟨_, .literal hKind⟩, ?_⟩)
    have hOpLexical := hNameTakes.isLexical hLexical _ hOpMem
    exact eq_words_of_mem (eq_of_beq hNameKind) hOpKind hOpLexical hKind
  obtain ⟨-, -, hLiteralKind, -⟩ := take_ok hLiteral
  rcases bind_eq_error_iff.mp h with hTree | ⟨_, -, ⟨⟩⟩
  have hTokens : stream.tokens =
      name.token :: op.token :: literal.token :: literal.rest.tokens := by
    rw [tokens_of_take hName, tokens_of_take hOp, tokens_of_take hLiteral]
  exact (FaultAt.of_conditionOf hTokens (eq_of_beq hNameKind) hOpKind hLiteralKind hTree).stops

/-! ### Chains -/

/-- A chain has been read up to what is no join. -/
theorem ofToken?_of_readChain {depth conditions : Nat} {stream : TokenStream} {r : Reading stream}
    (h : readChain options depth conditions stream = .ok r) :
    Join.ofToken? r.rest.current.kind = none := by
  obtain ⟨first, -, ⟨hNone, rfl⟩ | ⟨_, join, others, -, -, hOthers, -, -, -, hRest⟩⟩ :=
    readChain_ok h
  · exact hNone
  · have := first.shorter
    have := join.shorter
    rw [hRest]
    exact ofToken?_of_readChain hOthers
termination_by stream.size

mutual

theorem readOperand_error {depth conditions : Nat} {stream : TokenStream}
    (hLexical : stream.IsLexical) (hCheck : stream.check = .ok ())
    (hDepth : depth ≤ options.maxDepth) (hCount : conditions ≤ options.maxConditions)
    (h : readOperand options depth conditions stream = .error e) :
    Stops options ⟨.operand, depth⟩ conditions stream e := by
  rw [readOperand] at h
  split at h
  case isFalse hKind => exact readCondition_error hLexical hCheck hKind hCount h
  case isTrue hKind =>
    split at h
    case isTrue hLimit =>
      cases h
      exact (FaultAt.tooDeep hKind (Nat.le_antisymm hDepth hLimit)).stops
    case isFalse hLimit =>
      have hStep {kind : TokenKind} (hKind : (kind == .openParen) = true) :
          Place.Step ⟨.operand, depth⟩ kind ⟨.operand, depth + 1⟩ := by
        rw [eq_of_beq hKind]
        exact .openParen
      rcases bind_eq_error_iff.mp h with hOpened | ⟨opened, hOpened, h⟩
      · exact take_stops_here hOpened hCheck rfl
          (fun hOther => absurd hKind (beq_eq_false_iff_ne.mp hOther))
          (fun hOpen => ⟨_, hStep hOpen⟩)
      obtain ⟨hOpenedTakes, -, hOpenedKind, hOpenedCheck⟩ := take_ok hOpened
      have hOpenedLexical := hOpenedTakes.isLexical hLexical
      have hLeads : Leads options _ stream _ _ opened.rest :=
        .word hOpenedTakes (hStep hOpenedKind) (by simp [Token.word, eq_of_beq hOpenedKind])
      have := opened.shorter
      rcases bind_eq_error_iff.mp h with hInner | ⟨inner, hInner, h⟩
      · refine hLeads.stops ?_
        rw [conditionsIn_singleton]
        exact readChain_error hOpenedLexical hOpenedCheck (Nat.not_le.mp hLimit) hCount hInner
      obtain ⟨p, hp⟩ := readChain_sound hOpenedLexical (Nat.not_le.mp hLimit) hInner
      rcases bind_eq_error_iff.mp h with hClosed | ⟨_, -, ⟨⟩⟩
      refine (hLeads.trans (.phrase hp _)).stops (take_stops_here hClosed hp.check rfl
        (fun hOther => ⟨rfl, ?_⟩) (fun hClose => ⟨⟨.join, depth⟩, ?_⟩))
      · exact not_admits_join (ofToken?_of_readChain hInner)
          (fun hClose => absurd hClose (beq_eq_false_iff_ne.mp hOther))
          fun _ => Nat.succ_ne_zero _
      · rw [eq_of_beq hClose]
        exact .closeParen
termination_by (stream.size, 0)

theorem readChain_error {depth conditions : Nat} {stream : TokenStream}
    (hLexical : stream.IsLexical) (hCheck : stream.check = .ok ())
    (hDepth : depth ≤ options.maxDepth) (hCount : conditions ≤ options.maxConditions)
    (h : readChain options depth conditions stream = .error e) :
    Stops options ⟨.operand, depth⟩ conditions stream e := by
  rw [readChain] at h
  rcases bind_eq_error_iff.mp h with hFirst | ⟨first, hFirst, h⟩
  · exact readOperand_error hLexical hCheck hDepth hCount hFirst
  obtain ⟨p, hp⟩ := readOperand_sound hLexical hDepth hFirst
  have hLeads : Leads options _ stream _ _ first.rest := .phrase hp depth
  split at h
  case h_1 => cases h
  case h_2 op hJoin =>
    have hKind := Join.ofToken?_eq_some_iff.mp hJoin
    have hStep {kind : TokenKind} (hKind' : (kind == first.rest.current.kind) = true) :
        Place.Step ⟨.join, depth⟩ kind ⟨.operand, depth⟩ :=
      .join (Join.isLogical_iff.mpr ⟨op, (eq_of_beq hKind').trans hKind⟩)
    rcases bind_eq_error_iff.mp h with hJoined | ⟨join, hJoined, h⟩
    · refine hLeads.stops (take_stops_here hJoined hp.check ?_
        (fun hOther => absurd rfl (beq_eq_false_iff_ne.mp hOther))
        (fun hSelf => ⟨_, hStep hSelf⟩))
      rw [hKind]
      cases op <;> rfl
    obtain ⟨hJoinTakes, -, hJoinKind, hJoinCheck⟩ := take_ok hJoined
    have hJoinLeads : Leads options ⟨.join, depth⟩ first.rest [join.token.word] ⟨.operand, depth⟩
        join.rest := by
      refine .word hJoinTakes (hStep hJoinKind) ?_
      have hJoinToken : join.token.word.kind = op.token := (eq_of_beq hJoinKind).trans hKind
      rw [hJoinToken]
      cases op <;> decide
    rcases bind_eq_error_iff.mp h with hOthers | ⟨_, -, ⟨⟩⟩
    have := first.shorter
    have := join.shorter
    refine (hLeads.trans hJoinLeads).stops ?_
    rw [hLeads.append_eq, conditionsIn_singleton, List.append_nil, p.conditionsIn_eq,
      ← hp.conditions_eq]
    exact readChain_error (hJoinTakes.isLexical (hp.takes.isLexical hLexical)) hJoinCheck hDepth
      hp.conditions_le hOthers
termination_by (stream.size, 1)

end

/-- A text that is no rule has unbalanced parentheses, or is read from its start up to a fault. -/
theorem read_error {text : String} (h : Rule.read options text = .error e) :
    checkParens text = .error e ∨
      checkParens text = .ok () ∧ Stops options .start 0 (.ofText text) e := by
  rcases bind_eq_error_iff.mp h with hParens | ⟨_, hParens, h⟩
  · exact .inl hParens
  refine .inr ⟨hParens, ?_⟩
  rcases bind_eq_error_iff.mp h with hCheck | ⟨_, hCheck, h⟩
  · exact (FaultAt.of_check hCheck).stops
  rcases bind_eq_error_iff.mp h with hChain | ⟨chain, hChain, h⟩
  · exact readChain_error (isLexical_ofText text) hCheck (Nat.zero_le _) (Nat.zero_le _) hChain
  obtain ⟨p, hp⟩ := readChain_sound (isLexical_ofText text) (Nat.zero_le _) hChain
  split at h
  case isTrue => cases h
  case isFalse hSize =>
    cases h
    have hLeads : Leads options _ (.ofText text) _ _ chain.rest := .phrase hp 0
    refine hLeads.stops (FaultAt.unexpected hp.check ?_).stops
    refine not_admits_join (ofToken?_of_readChain hChain) (fun _ => rfl) fun hEnd => ?_
    have hMem : chain.rest.current ∈ chain.rest.tokens := by
      rw [TokenStream.size, List.length_eq_zero_iff] at hSize
      obtain ⟨token, tokens, hTokens⟩ := List.exists_cons_of_ne_nil hSize
      simp [TokenStream.current, hTokens]
    exact absurd hEnd (hp.takes.isLexical (isLexical_ofText text) _ hMem).kind_ne

/-- A text whose parentheses are balanced fails as the chain of its tokens does. -/
theorem read_eq_error {text : String} (hParens : checkParens text = .ok ())
    (hCheck : (TokenStream.ofText text).check = .ok ())
    (hChain : readChain options 0 0 (.ofText text) = .error e) :
    Rule.read options text = .error e := by
  simp only [Rule.read, hParens, hCheck, hChain]
  rfl

/-! ### The place of a fault among the tokens -/

theorem TokenStream.Takes.index (h : stream.Takes words rest) :
    stream.drop words.length = rest ∧
      (stream.tokens.take words.length).map Token.word = words := by
  obtain ⟨used, hTokens, rfl, hEnding⟩ := h
  rw [TokenStream.drop, List.length_map, hTokens, List.drop_left, List.take_left, hEnding]
  exact ⟨rfl, rfl⟩

/-- The token at hand behind the first `k` ones, where text that is no token does not come. -/
theorem TokenStream.lookup_of_check {k : Nat} (h : (stream.drop k).check = .ok ()) :
    stream.lookup k = .ok (stream.drop k).current := by
  rw [lookup, ← List.head?_drop]
  unfold drop check at h
  rw [drop, current, last]
  cases hTokens : stream.tokens.drop k with
  | nil =>
    rw [hTokens] at h
    cases hEnding : stream.ending with
    | endOfText position => rfl
    | unrecognized position => simp [hEnding] at h
  | cons token tokens => rfl

/-- What comes next is a token unless it is the end. -/
theorem TokenStream.getElem?_of_current {k : Nat} (h : (stream.drop k).current.kind ≠ .endOfText) :
    stream.tokens[k]? = some (stream.drop k).current := by
  rw [← List.head?_drop]
  rw [drop, current] at h ⊢
  cases hTokens : stream.tokens.drop k with
  | nil =>
    rw [hTokens] at h
    exact absurd rfl h
  | cons token tokens => rfl

/-- A reading that stops does so behind a number of tokens that have been judged. -/
theorem Stops.exists_index_judged (h : Stops options place conditions stream e) : ∃ k place',
    place.after ((stream.tokens.take k).map Token.kind) = some place' ∧
      FaultAt options (conditions + (conditionsIn ((stream.tokens.take k).map Token.word)).length)
        (stream.drop k) place' e ∧
      Judged options ((stream.tokens.take k).map Token.word) (stream.drop k) := by
  obtain ⟨words, place', rest, hTakes, hAfter, hJudged, hFault⟩ := h
  obtain ⟨hRest, hWords⟩ := hTakes.index
  have hKinds : (stream.tokens.take words.length).map Token.kind = words.map Word.kind := by
    conv_rhs => rw [← hWords, List.map_map]
    rfl
  refine ⟨words.length, place', by rw [hKinds, hAfter], ?_, ?_⟩
  · rwa [hRest, hWords]
  · rwa [hRest, hWords]

theorem Stops.exists_index (h : Stops options place conditions stream e) : ∃ k place',
    place.after ((stream.tokens.take k).map Token.kind) = some place' ∧
      FaultAt options (conditions + (conditionsIn ((stream.tokens.take k).map Token.word)).length)
        (stream.drop k) place' e := by
  obtain ⟨k, place', hAfter, hFault, -⟩ := h.exists_index_judged
  exact ⟨k, place', hAfter, hFault⟩

end PostSieve.Rule
