import PostSieve.Proofs.Acceptance
import PostSieve.Proofs.Calls
import PostSieve.Proofs.Reuse

/-! The progress of a parser: each of its calls that succeeds takes tokens, and the calls that a
reading makes follow each other towards the end of the text, so that there are no more of them than
its tokens allow, whatever the limits on rules are. -/

namespace PostSieve.Rule

/-! ### The tokens ahead -/

namespace Standing

/-- The tokens that are still to be taken, the one at hand in front. -/
def ahead (s : Standing) : List Token :=
  if s.current.kind = .endOfText then [] else s.current :: s.cursor.stream.tokens

theorem ahead_of_next {token : Token} {c cursor : Cursor} (h : c.next = .ok (token, cursor)) :
    ahead ⟨token, cursor⟩ = c.stream.tokens := by
  have hNext := c.next_both
  rw [h] at hNext
  generalize c.stream.check = check at hNext
  cases hNext with
  | ok hTaken =>
    obtain ⟨rfl, -, hStream⟩ := hTaken
    have hLexical := c.isLexical_stream
    rw [ahead, hStream, TokenStream.current]
    cases hTokens : c.stream.tokens with
    | nil => rfl
    | cons token tokens =>
      have hKind : token.kind ≠ .endOfText := (hLexical token (by simp [hTokens])).kind_ne
      rw [List.headD_cons, if_neg hKind, List.tail_cons]

theorem Takes.ahead_eq {s t : Standing} {taken : List Token} (h : s.Takes taken t) :
    s.ahead = taken ++ t.ahead := by
  induction h with
  | refl s => rfl
  | cons hKind hNext _ ih => rw [ahead, if_neg hKind, ← ahead_of_next hNext, ih, List.cons_append]

end Standing

/-! ### Calls one behind the other -/

namespace Call

/-- Whether one call can come next behind another. A chain begins with an operand, a group with a
parenthesis that is taken; a turn of the loop needs an operand of three tokens in front of it and
takes its join. -/
inductive Follows : Call → Call → Prop
  | operand {depth : Nat} {s : Standing} : Follows ⟨.chain, depth, s⟩ ⟨.operand, depth, s⟩
  | group {depth : Nat} {s t : Standing} : s.current.kind = .openParen →
      s.Takes [s.current] t → Follows ⟨.operand, depth, s⟩ ⟨.chain, depth + 1, t⟩
  | turn {depth depth' : Nat} {s t : Standing} {taken : List Token} : s.Takes taken t →
      3 ≤ taken.length → t.current.kind.isLogical = true →
      Follows ⟨.operand, depth, s⟩ ⟨.joined, depth', t⟩
  | join {depth : Nat} {s t : Standing} : s.current.kind.isLogical = true →
      s.Takes [s.current] t → Follows ⟨.joined, depth, s⟩ ⟨.operand, depth, t⟩

/-- No fewer than the operands that can be called for behind a call. -/
def potential (call : Call) : Nat :=
  match call.routine with
  | .chain => call.standing.ahead.length + 1
  | .operand | .joined => call.standing.ahead.length

variable {call call' : Call} {calls : List Call}

theorem Follows.takes (h : Follows call call') :
    ∃ taken, call.standing.Takes taken call'.standing := by
  cases h with
  | operand => exact ⟨[], .refl _⟩
  | group _ hTakes => exact ⟨_, hTakes⟩
  | turn hTakes => exact ⟨_, hTakes⟩
  | join _ hTakes => exact ⟨_, hTakes⟩

/-- An operand that is called for is paid for by the tokens taken since the last one. -/
theorem Follows.potential_le (h : Follows call call') :
    call'.potential + (if call'.isOperand then 1 else 0) ≤ call.potential := by
  cases h with
  | operand => exact Nat.le_refl _
  | @group depth s t _ hTakes =>
    have hAhead := congrArg List.length hTakes.ahead_eq
    rw [List.length_append, List.length_singleton] at hAhead
    show t.ahead.length + 1 + 0 ≤ s.ahead.length
    omega
  | @turn depth depth' s t taken hTakes =>
    have hAhead := congrArg List.length hTakes.ahead_eq
    rw [List.length_append] at hAhead
    show t.ahead.length + 0 ≤ s.ahead.length
    omega
  | @join depth s t _ hTakes =>
    have hAhead := congrArg List.length hTakes.ahead_eq
    rw [List.length_append, List.length_singleton] at hAhead
    show t.ahead.length + 1 ≤ s.ahead.length
    omega

/-- Each call of a run stands where the first one gets by taking tokens. -/
theorem exists_takes_of_isChain (h : (call :: calls).IsChain Follows) :
    ∀ call' ∈ call :: calls, ∃ taken, call.standing.Takes taken call'.standing := by
  induction calls generalizing call with
  | nil => exact List.forall_mem_singleton.mpr ⟨[], .refl _⟩
  | cons next calls ih =>
    rw [List.isChain_cons_cons] at h
    obtain ⟨taken, hTakes⟩ := h.1.takes
    refine List.forall_mem_cons.mpr ⟨⟨[], .refl _⟩, fun call' hMem => ?_⟩
    obtain ⟨taken', hTakes'⟩ := ih h.2 call' hMem
    exact ⟨_, hTakes.trans hTakes'⟩

theorem countP_isOperand_le (h : (call :: calls).IsChain Follows) :
    calls.countP isOperand ≤ call.potential := by
  induction calls generalizing call with
  | nil => exact Nat.zero_le _
  | cons next calls ih =>
    rw [List.isChain_cons_cons] at h
    have hNext := h.1.potential_le
    have hRest := ih h.2
    rw [List.countP_cons]
    omega

end Call

/-! ### The order of the calls -/

namespace Parser

open Call (Follows)

/-- Whether calls go on with a turn of the loop that one gets to by taking tokens. -/
def Resumes (s : Standing) (later : List Call) : Prop :=
  ∀ call ∈ later.head?, ∃ depth taken t, call = ⟨.joined, depth, t⟩ ∧ s.Takes taken t ∧
    t.current.kind.isLogical = true

theorem Resumes.of_takes {s t : Standing} {taken : List Token} {later : List Call}
    (h : Resumes t later) (hTakes : s.Takes taken t) : Resumes s later := by
  intro call hCall
  obtain ⟨depth, taken', u, hEq, hTakes', hLogical⟩ := h call hCall
  exact ⟨depth, _, u, hEq, hTakes.trans hTakes', hLogical⟩

/-- Behind the last call of an operand that succeeds the loop goes on. -/
theorem isChain_operand_cons {depth : Nat} {p : Parser} {later : List Call}
    (hLater : later.IsChain Follows)
    (h : later ≠ [] → ∃ step, p.operand depth = .ok step ∧ Resumes step.parser.standing later) :
    (⟨.operand, depth, p.standing⟩ :: later).IsChain Follows := by
  refine hLater.cons fun call hCall => ?_
  obtain ⟨step, hStep, hResumes⟩ := h (List.ne_nil_of_mem (List.mem_of_mem_head? hCall))
  obtain ⟨taken, hTakes, hLength⟩ := takes_operand hStep
  obtain ⟨depth', taken', t, rfl, hTakes', hLogical⟩ := hResumes call hCall
  refine .turn (hTakes.trans hTakes') ?_ hLogical
  rw [List.length_append]
  omega

theorem head?_linkedCalls (depth : Nat) (p : Parser) (later : List Call) :
    (p.linkedCalls depth ++ later).head? = some ⟨.operand, depth, p.standing⟩ := by
  rw [linkedCalls, operandCalls]
  rfl

-- What is called behind a call depends on whether it succeeds, so the calls that come later are
-- carried through the recursion: there are none unless it does.
mutual

theorem isChain_operandCalls {p : Parser} {depth : Nat} {later : List Call}
    (hLater : later.IsChain Follows)
    (h : later ≠ [] → ∃ step, p.operand depth = .ok step ∧ Resumes step.parser.standing later) :
    (p.operandCalls depth ++ later).IsChain Follows := by
  rw [operandCalls, List.cons_append]
  split
  case isFalse => exact isChain_operand_cons hLater h
  case isTrue hOpen =>
    split
    case isTrue => exact isChain_operand_cons hLater h
    case isFalse hDepth =>
      split
      case h_2 => exact isChain_operand_cons hLater h
      case h_1 opened hOpened =>
        have := opened.nearer
        have hGroup : (opened.parser.chainCalls (depth + 1) ++ later).IsChain Follows := by
          refine isChain_chainCalls hLater fun hNe => ?_
          obtain ⟨step, hStep, hResumes⟩ := h hNe
          rw [operand, if_pos hOpen, if_neg hDepth] at hStep
          obtain ⟨opened', hOpened', hStep⟩ := bind_eq_ok_iff.mp hStep
          obtain ⟨inner, hInner, hStep⟩ := bind_eq_ok_iff.mp hStep
          obtain ⟨closed, hClosed, hStep⟩ := bind_eq_ok_iff.mp hStep
          cases hStep
          obtain rfl : opened = opened' := Except.ok.inj (hOpened.symm.trans hOpened')
          exact ⟨inner, hInner, hResumes.of_takes (takes_expect hClosed)⟩
        refine hGroup.cons fun call hCall => ?_
        rw [chainCalls] at hCall
        obtain rfl := Option.some.inj hCall
        exact .group hOpen (takes_expect hOpened)
termination_by (p.room, 0)

theorem isChain_chainCalls {p : Parser} {depth : Nat} {later : List Call}
    (hLater : later.IsChain Follows)
    (h : later ≠ [] → ∃ step, p.chain depth = .ok step ∧ Resumes step.parser.standing later) :
    (p.chainCalls depth ++ later).IsChain Follows := by
  rw [chainCalls, List.cons_append]
  have hLinked : (p.linkedCalls depth ++ later).IsChain Follows := by
    refine isChain_linkedCalls hLater fun hNe => ?_
    obtain ⟨step, hStep, hResumes⟩ := h hNe
    rw [chain] at hStep
    obtain ⟨first, hFirst, hStep⟩ := bind_eq_ok_iff.mp hStep
    obtain ⟨⟨⟨tree, last⟩, hLe⟩, hLast, hStep⟩ := bind_eq_ok_iff.mp hStep
    cases hStep
    exact ⟨first, hFirst, _, _, _, hLast, hResumes⟩
  refine hLinked.cons fun call hCall => ?_
  rw [head?_linkedCalls] at hCall
  obtain rfl := Option.some.inj hCall
  exact .operand
termination_by (p.room, 2)

theorem isChain_linkedCalls {p : Parser} {depth : Nat} {later : List Call}
    (hLater : later.IsChain Follows)
    (h : later ≠ [] → ∃ first, p.operand depth = .ok first ∧ ∃ pending tree last,
      first.parser.others depth pending tree = .ok last ∧ Resumes last.1.2.standing later) :
    (p.linkedCalls depth ++ later).IsChain Follows := by
  rw [linkedCalls, List.append_assoc]
  split
  case h_1 first hFirst =>
    have := first.nearer
    obtain ⟨hOthers, hResumes⟩ := @isChain_othersCalls first.parser depth later hLater
      fun hNe => by
        obtain ⟨first', hFirst', hLast⟩ := h hNe
        obtain rfl : first = first' := Except.ok.inj (hFirst.symm.trans hFirst')
        exact hLast
    exact isChain_operandCalls hOthers fun _ => ⟨first, hFirst, hResumes⟩
  case h_2 stop hStop =>
    refine isChain_operandCalls hLater fun hNe => ?_
    obtain ⟨first, hFirst, -⟩ := h hNe
    cases hStop.symm.trans hFirst
termination_by (p.room, 1)

theorem isChain_othersCalls {p : Parser} {depth : Nat} {later : List Call}
    (hLater : later.IsChain Follows)
    (h : later ≠ [] → ∃ pending tree last, p.others depth pending tree = .ok last ∧
      Resumes last.1.2.standing later) :
    (p.othersCalls depth ++ later).IsChain Follows ∧
      Resumes p.standing (p.othersCalls depth ++ later) := by
  rw [othersCalls]
  split
  case h_1 hNone =>
    refine ⟨hLater, fun call hCall => ?_⟩
    obtain ⟨pending, tree, last, hLast, hResumes⟩ :=
      h (List.ne_nil_of_mem (List.mem_of_mem_head? hCall))
    obtain ⟨taken, hTakes⟩ := takes_others hLast
    exact hResumes.of_takes hTakes call hCall
  case h_2 op hOp =>
    have hLogical : p.current.kind.isLogical = true :=
      Join.isLogical_iff.mpr ⟨op, Join.ofToken?_eq_some_iff.mp hOp⟩
    rw [List.cons_append]
    constructor
    · split
      case h_1 join hJoin =>
        have := join.nearer
        have hLinked : (join.parser.linkedCalls depth ++ later).IsChain Follows := by
          refine isChain_linkedCalls hLater fun hNe => ?_
          obtain ⟨pending, tree, last, hLast, hResumes⟩ := h hNe
          obtain ⟨join', next, hJoin', hNext, hOthers⟩ := others_ok hOp hLast
          obtain rfl : join = join' := Except.ok.inj (hJoin.symm.trans hJoin')
          obtain ⟨last', hLast', hEq⟩ := hOthers
          exact ⟨next, hNext, _, _, last', hLast', hEq ▸ hResumes⟩
        refine hLinked.cons fun call hCall => ?_
        rw [head?_linkedCalls] at hCall
        obtain rfl := Option.some.inj hCall
        exact .join hLogical (takes_advance hJoin)
      case h_2 stop hStop =>
        refine hLater.cons fun call hCall => ?_
        obtain ⟨pending, tree, last, hLast, -⟩ :=
          h (List.ne_nil_of_mem (List.mem_of_mem_head? hCall))
        obtain ⟨join, next, hJoin, -⟩ := others_ok hOp hLast
        cases hStop.symm.trans hJoin
    · intro call hCall
      obtain rfl := Option.some.inj hCall
      exact ⟨_, [], _, rfl, .refl _, hLogical⟩
termination_by (p.room, 0)

end

/-- A reading makes no calls, or those of a chain from the first token of the text on. -/
theorem calls_cases (p : Parser) : p.calls = [] ∨ ∃ first : Parser,
    first.standing.Tracks p.cursor.text ∧
      first.standing.ahead = (TokenStream.ofText p.cursor.text).tokens ∧
      p.calls = first.chainCalls 0 := by
  unfold calls
  split
  · exact .inl rfl
  · split
    · exact .inl rfl
    · rename_i token cursor hNext
      exact .inr ⟨⟨p.options, cursor, token, 0, 0⟩,
        Standing.tracks_of_next (Cursor.isAt_start _) hNext, Standing.ahead_of_next hNext, rfl⟩

theorem isChain_calls (p : Parser) : p.calls.IsChain Follows := by
  rcases p.calls_cases with hNil | ⟨first, -, -, hCalls⟩
  · rw [hNil]
    exact .nil
  · rw [hCalls, ← List.append_nil (first.chainCalls 0)]
    exact isChain_chainCalls .nil fun hNe => absurd rfl hNe

/-- Wherever a call leads by taking tokens, the parser goes through its text. -/
theorem tracks_of_mem_calls {p : Parser} {call : Call} (h : call ∈ p.calls) {taken : List Token}
    {s : Standing} (hTakes : call.standing.Takes taken s) :
    s.Tracks p.cursor.text ∧ s.ahead <:+ (TokenStream.ofText p.cursor.text).tokens := by
  rcases p.calls_cases with hNil | ⟨first, hTracks, hAhead, hCalls⟩
  · rw [hNil] at h
    cases h
  · have hChain := p.isChain_calls
    rw [hCalls, chainCalls] at h hChain
    obtain ⟨before, hBefore⟩ := Call.exists_takes_of_isChain hChain call h
    have hAll : first.standing.Takes (before ++ taken) s := hBefore.trans hTakes
    exact ⟨hTracks.of_takes hAll, before ++ taken, hAll.ahead_eq.symm.trans hAhead⟩

/-- A reading begins with a chain in front of all tokens of the text. -/
theorem head_calls {p : Parser} {call : Call} (h : call ∈ p.calls.head?) :
    call.routine = .chain ∧ call.depth = 0 ∧
      call.standing.ahead = (TokenStream.ofText p.cursor.text).tokens := by
  rcases p.calls_cases with hNil | ⟨first, -, hAhead, hCalls⟩
  · rw [hNil] at h
    cases h
  · rw [hCalls, chainCalls] at h
    obtain rfl := Option.some.inj h
    exact ⟨rfl, rfl, hAhead⟩

theorem countP_calls_le (p : Parser) :
    p.calls.countP Call.isOperand ≤ (TokenStream.ofText p.cursor.text).size + 1 := by
  have hChain := p.isChain_calls
  cases hCalls : p.calls with
  | nil => exact Nat.zero_le _
  | cons call calls =>
    rw [hCalls] at hChain
    have hHead : call ∈ p.calls.head? := by
      rw [hCalls]
      rfl
    obtain ⟨hRoutine, -, hAhead⟩ := head_calls hHead
    have hCount := Call.countP_isOperand_le hChain
    rw [Call.potential, hRoutine, hAhead] at hCount
    rw [List.countP_cons_of_neg (by simp [Call.isOperand, hRoutine])]
    exact hCount

/-- A parser makes progress on every text, rule or not, whatever its options are. An operand or a
chain that is read takes three tokens or more, and a turn of the loop takes a join and an operand.
The calls of a reading follow each other in this way, chains within others behind a parenthesis that
is taken, from the first token of the text on; as many as count a node are counted in a rule, and
the conditions that were looked for are among them. Wherever a call leads by taking tokens, what is
ahead is an end of the text's tokens, and the end of the text, once at hand, is all that can come
next. In all no more operands are called for than the text has tokens, and one. -/
theorem parse_progress (p : Parser) :
    let tokens := (TokenStream.ofText p.cursor.text).tokens
    (∀ (q : Parser) (depth : Nat) (step : Step Tree q),
      q.operand depth = .ok step ∨ q.chain depth = .ok step →
        ∃ taken, q.standing.ahead = taken ++ step.parser.standing.ahead ∧ 3 ≤ taken.length) ∧
    (∀ (q : Parser) (depth : Nat) (op : Join) (hOp : Join.ofToken? q.current.kind = some op)
      (join : Step Token q) (next : Step Tree join.parser),
      q.advance (ne_endOfText_of_join hOp) = .ok join → join.parser.operand depth = .ok next →
        ∃ taken, q.standing.ahead = q.current :: (taken ++ next.parser.standing.ahead) ∧
          3 ≤ taken.length) ∧
    p.calls.IsChain Follows ∧
    (∀ call ∈ p.calls.head?,
      call.routine = .chain ∧ call.depth = 0 ∧ call.standing.ahead = tokens) ∧
    (∀ call ∈ p.calls, ∀ taken s, call.standing.Takes taken s → s.ahead <:+ tokens ∧
      (s.current.kind = .endOfText → s.cursor.count = tokens.length ∧
        s.cursor.next = .ok (s.current, s.cursor))) ∧
    (∀ rule q, p.parse = (.ok rule, q) → rule.nodeCount = p.calls.countP Call.isCounted) ∧
    (checkParens p.cursor.text = .ok () →
      p.parse.2.conditionCount ≤ p.calls.countP Call.isOperand) ∧
    p.calls.countP Call.isOperand ≤ tokens.length + 1 := by
  intro tokens
  refine ⟨?_, ?_, p.isChain_calls, fun call => head_calls, ?_, fun rule q => nodeCount_parse,
    conditionCount_parse_le, p.countP_calls_le⟩
  · rintro q depth step (hStep | hStep)
    · obtain ⟨taken, hTakes, hLength⟩ := takes_operand hStep
      exact ⟨taken, hTakes.ahead_eq, hLength⟩
    · obtain ⟨taken, hTakes, hLength⟩ := takes_chain hStep
      exact ⟨taken, hTakes.ahead_eq, hLength⟩
  · intro q depth op hOp join next hJoin hNext
    obtain ⟨taken, hTakes, hLength⟩ := takes_operand hNext
    exact ⟨taken, ((takes_advance hJoin).trans hTakes).ahead_eq, hLength⟩
  · intro call hCall taken s hTakes
    obtain ⟨hTracks, hSuffix⟩ := tracks_of_mem_calls hCall hTakes
    exact ⟨hSuffix, fun hEnd => ⟨hTracks.count_of_end hEnd, hTracks.next_of_end hEnd⟩⟩

theorem parse_progress_sample :
    let p := Parser.start { now := .epoch } "likes > 3 && (retweets == 5 || likes < 9)"
    p.calls.countP Call.isOperand ≤ 14 ∧
      (∃ rule, p.parse.1 = .ok rule ∧ rule.nodeCount = p.calls.countP Call.isCounted) ∧
      ∃ (q : Parser) (step : Step Tree q), q.chain 0 = .ok step ∧
        ∃ taken, q.standing.ahead = taken ++ step.parser.standing.ahead ∧ 3 ≤ taken.length := by
  intro p
  obtain ⟨rule, hRead⟩ := exists_read_sample
  have hParse : p.parse = (.ok rule, p.parse.2) := Prod.ext (p.parse_spec.1.trans hRead) rfl
  obtain ⟨-, token, cursor, step, -, hStep, -, -, -⟩ := exists_chain_of_parse hParse
  obtain ⟨hReads, -, -, -, -, hNodes, -, hCount⟩ := parse_progress p
  have hWords : (TokenStream.ofText p.cursor.text).tokens.map Token.word = Phrase.sample.words :=
    (wordsOf_eq_ok_iff.mp Phrase.wordsOf_sample).2
  have hLength : Phrase.sample.words.length = 13 := rfl
  rw [← List.length_map Token.word, hWords, hLength] at hCount
  exact ⟨hCount, ⟨rule, congrArg Prod.fst hParse, hNodes rule _ hParse⟩, _, step, hStep,
    hReads _ 0 step (.inr hStep)⟩

end Parser

end PostSieve.Rule
