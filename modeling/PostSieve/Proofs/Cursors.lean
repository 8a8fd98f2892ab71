import PostSieve.Proofs.Tiling

/-! A cursor in a text: however it has been used, it stands between two tokens of the text, and the
number of tokens in front of it tells all that it will answer. -/

namespace PostSieve.Rule

/-! ### Places in a stream -/

namespace TokenStream

/-- What comes behind all tokens: the end of the text, or the error where none begins. -/
def last (stream : TokenStream) : Except RuleError Token :=
  match stream.ending with
  | .endOfText position => .ok (Token.endAt position)
  | .unrecognized position => .error (.unrecognizedToken position)

/-- The token behind the first `k` tokens, or what comes behind all tokens. -/
def lookup (stream : TokenStream) (k : Nat) : Except RuleError Token :=
  stream.tokens[k]?.elim stream.last .ok

/-- The stream behind its first `k` tokens. -/
def drop (stream : TokenStream) (k : Nat) : TokenStream :=
  { stream with tokens := stream.tokens.drop k }

/-- The offset of the byte behind the first `k` tokens. -/
def stopAfter (stream : TokenStream) (k : Nat) : Nat :=
  ((stream.tokens.take k).getLast?.map Token.stop).getD 0

variable {stream stream' : TokenStream} {k : Nat} {token : Token}

theorem lookup_of_size_le (h : stream.size ≤ k) : stream.lookup k = stream.last := by
  rw [lookup, List.getElem?_eq_none h]
  rfl

theorem lookup_eq_ok (h : stream.tokens[k]? = some token) : stream.lookup k = .ok token := by
  rw [lookup, h]
  rfl

theorem size_le_of_lookup {e : RuleError} (h : stream.lookup k = .error e) : stream.size ≤ k := by
  by_contra hLt
  rw [lookup, List.getElem?_eq_getElem (not_le.mp hLt)] at h
  cases h

theorem stopAfter_succ (h : stream.tokens[k]? = some token) :
    stream.stopAfter (k + 1) = token.stop := by
  rw [stopAfter, List.take_add_one, h, Option.toList_some, List.getLast?_concat]
  rfl

theorem drop_eq_cons (h : stream.drop k = ⟨token :: stream'.tokens, stream'.ending⟩) :
    stream.tokens[k]? = some token ∧ stream' = stream.drop (k + 1) := by
  obtain ⟨tokens, ending⟩ := stream
  obtain ⟨tokens', ending'⟩ := stream'
  simp only [drop, TokenStream.mk.injEq] at h
  obtain ⟨hTokens, rfl⟩ := h
  have hHead : tokens[k]? = some token := by
    rw [← List.head?_drop, hTokens]
    rfl
  refine ⟨hHead, ?_⟩
  rw [drop, ← List.tail_drop, hTokens]
  rfl

end TokenStream

/-! ### Places of a cursor -/

namespace Cursor

/-- Whether a cursor stands in a text behind its first `k` tokens. -/
structure IsAt (text : String) (k : Nat) (c : Cursor) : Prop where
  text_eq : c.text = text
  count_eq : c.count = k
  count_le : k ≤ (TokenStream.ofText text).size
  position_eq : c.position = (TokenStream.ofText text).stopAfter k
  rest_eq : ∃ before, text.toList = before ++ c.rest ∧ c.position = byteLength before
  stream_eq : c.stream = (TokenStream.ofText text).drop k

variable {text : String} {k : Nat} {c c' : Cursor}

theorem isAt_start (text : String) : IsAt text 0 (start text) where
  text_eq := rfl
  count_eq := rfl
  count_le := Nat.zero_le _
  position_eq := rfl
  rest_eq := ⟨[], rfl, rfl⟩
  stream_eq := rfl

theorem IsAt.isSlice_rest (h : IsAt text k c) :
    IsSlice text c.position text.utf8ByteSize (String.ofList c.rest) := by
  obtain ⟨before, hText, hPosition⟩ := h.rest_eq
  have hSize : text.utf8ByteSize = byteLength before + byteLength c.rest := by
    rw [← byteLength_toList, hText, byteLength_append]
  rw [hPosition, hSize]
  exact @isSlice_of_append text before c.rest [] (by rw [List.append_nil, hText])

/-- There is one cursor at each place. -/
theorem IsAt.unique (h : IsAt text k c) (h' : IsAt text k c') : c = c' := by
  obtain ⟨before, hText, hPosition⟩ := h.rest_eq
  obtain ⟨before', hText', hPosition'⟩ := h'.rest_eq
  -- The place fixes the offset, and the offset splits the text in one way.
  have hPositions := h.position_eq.trans h'.position_eq.symm
  have hTexts := h.text_eq.trans h'.text_eq.symm
  have hCounts := h.count_eq.trans h'.count_eq.symm
  obtain ⟨-, hRest⟩ := append_inj_of_byteLength (hText.symm.trans hText')
    (hPosition.symm.trans (hPositions.trans hPosition'))
  cases c
  cases c'
  rw [Cursor.mk.injEq]
  exact ⟨hTexts, hRest, hPositions, hCounts⟩

theorem IsAt.of_stopped {ending : Ending} (h : IsAt text k c)
    (hScan : scan TokenKind.scanned c.position c.rest = .stopped ending) :
    k = (TokenStream.ofText text).size ∧ ending = (TokenStream.ofText text).ending := by
  have hStream : ⟨[], ending⟩ = (TokenStream.ofText text).drop k :=
    (TokenStream.scanFrom_stopped hScan).symm.trans h.stream_eq
  obtain ⟨hNil, hEnding⟩ := TokenStream.mk.inj hStream
  exact ⟨Nat.le_antisymm h.count_le (List.drop_eq_nil_iff.mp hNil.symm), hEnding⟩

/-- A token that is scanned is the one at the place of the cursor, and behind it is the next
place. -/
theorem IsAt.of_token {token : Token} {rest : List Char} (h : IsAt text k c)
    (hScan : scan TokenKind.scanned c.position c.rest = .token token rest) :
    (TokenStream.ofText text).tokens[k]? = some token ∧
      IsAt text (k + 1) { c with rest, position := token.stop, count := c.count + 1 } := by
  obtain ⟨before, hText, hBefore⟩ := h.rest_eq
  obtain ⟨gap, -, hRest, -, hPosition, hLength⟩ := scan_token hScan
  obtain ⟨hToken, hDrop⟩ := TokenStream.drop_eq_cons
    (h.stream_eq.symm.trans (TokenStream.scanFrom_token hScan))
  refine ⟨hToken, ?_⟩
  constructor
  case text_eq => exact h.text_eq
  case count_eq => exact congrArg (· + 1) h.count_eq
  case count_le => exact (List.getElem?_eq_some_iff.mp hToken).1
  case position_eq => exact (TokenStream.stopAfter_succ hToken).symm
  case rest_eq =>
    refine ⟨before ++ gap ++ token.value.toList, ?_, ?_⟩
    · rw [hText, hRest, List.append_assoc, List.append_assoc]
    · show token.stop = _
      rw [Token.stop, hPosition, hLength, hBefore, byteLength_append, byteLength_append]
  case stream_eq => exact hDrop

/-- A step gives what is found at the place of the cursor, and goes on to the next place if there
is one. -/
theorem IsAt.next_eq (h : IsAt text k c) : ∃ c',
    c.next = ((TokenStream.ofText text).lookup k).map (·, c') ∧
      IsAt text (min (k + 1) (TokenStream.ofText text).size) c' := by
  cases hScan : scan TokenKind.scanned c.position c.rest with
  | stopped ending =>
    obtain ⟨rfl, hEnding⟩ := h.of_stopped hScan
    refine ⟨c, ?_, ?_⟩
    · rw [next, hScan, hEnding, TokenStream.lookup_of_size_le (Nat.le_refl _), TokenStream.last]
      cases (TokenStream.ofText text).ending <;> rfl
    · rwa [Nat.min_eq_right (Nat.le_succ _)]
  | token token rest =>
    obtain ⟨hToken, hNext⟩ := h.of_token hScan
    refine ⟨_, ?_, (Nat.min_eq_left hNext.count_le).symm ▸ hNext⟩
    rw [next, hScan, TokenStream.lookup_eq_ok hToken]
    rfl

/-- Reading all tokens leaves the cursor behind them, also where something else than the end of the
text stops it. -/
theorem IsAt.tokens_snd (h : IsAt text k c) :
    IsAt text (TokenStream.ofText text).size c.tokens.2 := by
  -- Each token that is read leads to the next place, so the claim is for all places at once.
  fun_induction Cursor.tokens c generalizing k with
  | case1 c stop hScan => exact (h.of_stopped hScan).1 ▸ h
  | case2 c stop hScan => exact (h.of_stopped hScan).1 ▸ h
  | case3 c token rest hScan _ tokens last hTokens ih =>
    rw [hTokens] at ih
    exact ih (h.of_token hScan).2

/-! ### The use of a cursor -/

/-- What can be done with a cursor. -/
inductive Operation
  | peek | next | tokens | reset
deriving DecidableEq

/-- What an operation gives. -/
inductive Answer
  | token (found : Except RuleError Token)
  | tokens (found : Except RuleError (List Token))
  | done

/-- What an operation gives, and the cursor that it leaves; one that fails to find a token leaves
the cursor as it was. -/
def perform (c : Cursor) : Operation → Answer × Cursor
  | .peek => (.token c.peek, c)
  | .next =>
    match c.next with
    | .ok (token, c') => (.token (.ok token), c')
    | .error e => (.token (.error e), c)
  | .tokens => (.tokens c.tokens.1, c.tokens.2)
  | .reset => (.done, c.reset)

/-- The cursor after some operations, one behind the other. -/
def after (c : Cursor) (ops : List Operation) : Cursor :=
  ops.foldl (fun c op => (c.perform op).2) c

namespace Operation

/-- What an operation gives behind the first `k` tokens of a stream. -/
def answer (op : Operation) (stream : TokenStream) (k : Nat) : Answer :=
  match op with
  | peek => .token (stream.lookup k)
  | next => .token (stream.lookup k)
  | tokens => .tokens (stream.drop k).toList
  | reset => .done

/-- How many tokens lie in front of the cursor after an operation, where `k` did before. -/
def count (op : Operation) (stream : TokenStream) (k : Nat) : Nat :=
  match op with
  | peek => k
  | next => min (k + 1) stream.size
  | tokens => stream.size
  | reset => 0

end Operation

/-- An operation gives what the place of the cursor tells, and leaves the cursor at the place that
it tells. -/
theorem IsAt.perform (h : IsAt text k c) (op : Operation) :
    (c.perform op).1 = op.answer (TokenStream.ofText text) k ∧
      IsAt text (op.count (TokenStream.ofText text) k) (c.perform op).2 := by
  obtain ⟨c', hNext, hAt⟩ := h.next_eq
  cases op with
  | peek =>
    refine ⟨?_, h⟩
    simp only [Cursor.perform, Operation.answer, peek, hNext]
    cases (TokenStream.ofText text).lookup k <;> rfl
  | next =>
    cases hLookup : (TokenStream.ofText text).lookup k with
    | ok token =>
      rw [hLookup] at hNext
      simp only [Cursor.perform, Operation.answer, hNext, hLookup, Except.map]
      exact ⟨trivial, hAt⟩
    | error e =>
      -- An error is what comes behind the last token, so there is no next place.
      have hLe := TokenStream.size_le_of_lookup hLookup
      rw [hLookup] at hNext
      simp only [Cursor.perform, Operation.answer, Operation.count, hNext, hLookup, Except.map]
      rw [Nat.min_eq_right (Nat.le_succ_of_le hLe), Nat.le_antisymm hLe h.count_le]
      exact ⟨trivial, h⟩
  | tokens =>
    refine ⟨?_, h.tokens_snd⟩
    simp only [Cursor.perform, Operation.answer, tokens_fst, h.stream_eq]
  | reset =>
    refine ⟨rfl, ?_⟩
    simp only [Cursor.perform, reset, h.text_eq]
    exact isAt_start text

/-- A cursor stays in its text whatever is done with it. -/
theorem IsAt.after (h : IsAt text k c) (ops : List Operation) :
    IsAt text (c.after ops).count (c.after ops) := by
  induction ops generalizing c k with
  | nil => exact h.count_eq.symm ▸ h
  | cons op ops ih => exact ih (h.perform op).2

/-- Behind all tokens a cursor stays as it is until it is reset. -/
theorem IsAt.after_of_last (h : IsAt text (TokenStream.ofText text).size c) {ops : List Operation}
    (hReset : Operation.reset ∉ ops) : c.after ops = c := by
  induction ops with
  | nil => rfl
  | cons op ops ih =>
    rw [List.mem_cons, not_or] at hReset
    have hStays : op.count (TokenStream.ofText text) (TokenStream.ofText text).size =
        (TokenStream.ofText text).size := by
      cases op with
      | peek => rfl
      | next => exact Nat.min_eq_right (Nat.le_succ _)
      | tokens => rfl
      | reset => exact absurd rfl hReset.1
    have hSame : (c.perform op).2 = c := (hStays ▸ (h.perform op).2).unique h
    rw [Cursor.after, List.foldl_cons, hSame]
    exact ih hReset.2

/-- A cursor that has been used in any way stands between two tokens of the text: so many lie in
front of it as it counts, and all that lies behind the last of them is still to be read. Each
operation gives what that place in the stream of tokens tells, and leaves the cursor at the place
that it tells; looking ahead leaves the cursor itself. Two uses that lead to the same place lead to
the same cursor. Once it is behind all tokens it stays there until it is reset, also where an error
is what comes there. -/
theorem after_perform (text : String) (ops : List Operation) :
    let stream := TokenStream.ofText text
    let c := (start text).after ops
    c.text = text ∧ c.count ≤ stream.size ∧ c.position = stream.stopAfter c.count ∧
      IsSlice text c.position text.utf8ByteSize (String.ofList c.rest) ∧
      (∀ op, (c.perform op).1 = op.answer stream c.count ∧
        (c.perform op).2.count = op.count stream c.count) ∧
      (c.perform .peek).2 = c ∧
      (∀ others, ((start text).after others).count = c.count → (start text).after others = c) ∧
      (c.count = stream.size → ∀ more, Operation.reset ∉ more → c.after more = c) := by
  intro stream c
  have hAt : IsAt text c.count c := (isAt_start text).after ops
  refine ⟨hAt.text_eq, hAt.count_le, hAt.position_eq, hAt.isSlice_rest, fun op => ?_, rfl, ?_, ?_⟩
  · obtain ⟨hAnswer, hNext⟩ := hAt.perform op
    exact ⟨hAnswer, hNext.count_eq⟩
  · intro others hCount
    exact (hCount ▸ (isAt_start text).after others).unique hAt
  · intro hLast more hReset
    exact (hLast ▸ hAt : IsAt text stream.size c).after_of_last hReset

end Cursor

end PostSieve.Rule
