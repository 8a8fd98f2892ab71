import PostSieve.Proofs.GrammarErrors
import PostSieve.Proofs.Tiling

/-! Balanced parentheses: the search through a text finds nothing exactly if the parentheses among
its tokens are balanced, and what it finds is one of them. Behind it no parenthesis can be missing
or left over where a rule is read. -/

namespace PostSieve.Rule

/-- Whether every closing parenthesis among some words closes one that was opened among them, or
one of those open before. -/
def Closes (opened : Nat) (kinds : List TokenKind) : Prop :=
  ∀ front, front <+: kinds → front.count .closeParen ≤ opened + front.count .openParen

/-- Whether nothing is left open behind some words besides. -/
def Balances (opened : Nat) (kinds : List TokenKind) : Prop :=
  Closes opened kinds ∧ kinds.count .closeParen = opened + kinds.count .openParen

section Counts

variable {opened : Nat} {kind : TokenKind} {kinds : List TokenKind}

theorem closes_nil : Closes opened [] := by
  intro front hFront
  rw [List.prefix_nil.mp hFront]
  exact Nat.zero_le _

theorem closes_cons_iff : Closes opened (kind :: kinds) ↔ ∀ front, front <+: kinds →
    (kind :: front).count .closeParen ≤ opened + (kind :: front).count .openParen := by
  constructor
  · intro h front hFront
    exact h _ ((List.prefix_cons_inj kind).mpr hFront)
  · intro h front hFront
    rcases List.prefix_cons_iff.mp hFront with rfl | ⟨rest, rfl, hRest⟩
    · exact Nat.zero_le _
    · exact h rest hRest

theorem closes_openParen : Closes opened (.openParen :: kinds) ↔ Closes (opened + 1) kinds := by
  rw [closes_cons_iff]
  refine forall₂_congr fun front _ => ?_
  rw [List.count_cons_self, List.count_cons_of_ne (by decide)]
  omega

theorem not_closes_closeParen : ¬ Closes 0 (.closeParen :: kinds) := by
  intro h
  have := h [.closeParen] (List.prefix_append [.closeParen] kinds)
  cases this

theorem closes_closeParen : Closes (opened + 1) (.closeParen :: kinds) ↔ Closes opened kinds := by
  rw [closes_cons_iff]
  refine forall₂_congr fun front _ => ?_
  rw [List.count_cons_self, List.count_cons_of_ne (by decide)]
  omega

theorem closes_other (hOpen : kind ≠ .openParen) (hClose : kind ≠ .closeParen) :
    Closes opened (kind :: kinds) ↔ Closes opened kinds := by
  rw [closes_cons_iff]
  refine forall₂_congr fun front _ => ?_
  rw [List.count_cons_of_ne hOpen, List.count_cons_of_ne hClose]

theorem closes_concat (hOpen : kind ≠ .openParen) (hClose : kind ≠ .closeParen) :
    Closes opened (kinds ++ [kind]) ↔ Closes opened kinds := by
  constructor
  · intro h front hFront
    exact h front (hFront.trans (List.prefix_append kinds [kind]))
  · intro h front hFront
    rcases List.prefix_concat_iff.mp hFront with rfl | hFront
    · have := h kinds List.prefix_rfl
      rwa [List.count_append, List.count_append, List.count_singleton, List.count_singleton,
        beq_false_of_ne hOpen, beq_false_of_ne hClose]
    · exact h front hFront

theorem balances_concat (hOpen : kind ≠ .openParen) (hClose : kind ≠ .closeParen) :
    Balances opened (kinds ++ [kind]) ↔ Balances opened kinds := by
  rw [Balances, closes_concat hOpen hClose, List.count_append, List.count_append,
    List.count_singleton, List.count_singleton, beq_false_of_ne hOpen, beq_false_of_ne hClose]
  rfl

end Counts

/-! ### The search and the tokens -/

variable {opened : List Nat}

/-- The search through tokens finds nothing exactly if they are balanced. -/
theorem unmatchedParen_eq_none_iff {tokens : List Token} : unmatchedParen opened tokens = none ↔
    Balances opened.length (tokens.map Token.kind) := by
  induction tokens generalizing opened with
  | nil =>
    rw [unmatchedParen, Option.map_eq_none_iff, List.head?_eq_none_iff, ← List.length_eq_zero_iff]
    exact ⟨fun h => ⟨closes_nil, h.symm⟩, fun h => h.2.symm⟩
  | cons token tokens ih =>
    rw [List.map_cons, Balances]
    by_cases hOpen : token.kind = .openParen
    · rw [unmatchedParen_openParen hOpen, ih, Balances, hOpen, closes_openParen,
        List.count_cons_self, List.count_cons_of_ne (by decide), List.length_cons]
      exact and_congr_right fun _ => by omega
    by_cases hClose : token.kind = .closeParen
    · rw [unmatchedParen_closeParen hClose, hClose, List.count_cons_self,
        List.count_cons_of_ne (by decide)]
      cases opened with
      | nil => simp [not_closes_closeParen]
      | cons place opened =>
        simp only
        rw [ih, Balances, List.length_cons, closes_closeParen]
        exact and_congr_right fun _ => by omega
    · rw [unmatchedParen_other hOpen hClose, ih, Balances, closes_other hOpen hClose,
        List.count_cons_of_ne hOpen, List.count_cons_of_ne hClose]

/-- Whether an error is about a parenthesis among some tokens. -/
def RuleError.OfParen (e : RuleError) (tokens : List Token) : Prop :=
  ∃ token ∈ tokens, token.kind = .openParen ∧ e = .unbalancedParen '(' token.position ∨
    token.kind = .closeParen ∧ e = .unbalancedParen ')' token.position

/-- What the search through tokens finds is one of them, or one that was open before. -/
theorem unmatchedParen_eq_some {tokens : List Token} {e : RuleError}
    (h : unmatchedParen opened tokens = some e) :
    e.OfParen tokens ∨ ∃ place ∈ opened, e = .unbalancedParen '(' place := by
  induction tokens generalizing opened with
  | nil =>
    obtain ⟨place, hPlace, rfl⟩ := Option.map_eq_some_iff.mp h
    exact .inr ⟨place, List.mem_of_mem_head? hPlace, rfl⟩
  | cons token tokens ih =>
    have hTail : e.OfParen tokens → e.OfParen (token :: tokens) :=
      fun ⟨found, hMem, hFound⟩ => ⟨found, List.mem_cons_of_mem _ hMem, hFound⟩
    have hHead := @List.mem_cons_self _ token tokens
    by_cases hOpen : token.kind = .openParen
    · rw [unmatchedParen_openParen hOpen] at h
      obtain hFound | ⟨place, hPlace, he⟩ := ih h
      · exact .inl (hTail hFound)
      rcases List.mem_cons.mp hPlace with rfl | hPlace
      · exact .inl ⟨token, hHead, .inl ⟨hOpen, he⟩⟩
      · exact .inr ⟨place, hPlace, he⟩
    by_cases hClose : token.kind = .closeParen
    · rw [unmatchedParen_closeParen hClose] at h
      cases opened with
      | nil =>
        cases h
        exact .inl ⟨token, hHead, .inr ⟨hClose, rfl⟩⟩
      | cons outer opened =>
        obtain hFound | ⟨place, hPlace, he⟩ := ih h
        · exact .inl (hTail hFound)
        · exact .inr ⟨place, List.mem_cons_of_mem _ hPlace, he⟩
    · rw [unmatchedParen_other hOpen hClose] at h
      exact (ih h).imp_left hTail

/-- A text in which the search finds nothing closes no parenthesis that is not open, whatever comes
behind its tokens. -/
theorem closes_of_findUnbalanced {position : Nat} {text : List Char}
    (h : findUnbalanced opened false position text = none) : Closes opened.length
      ((TokenStream.scanFrom TokenKind.scanned position text).tokens.map Token.kind) := by
  -- The search takes the tokens one by one, and the counts end with them: what stops the tokens
  -- need not be the end of the text, and the search there is of no concern.
  fun_induction TokenStream.scanFrom TokenKind.scanned position text generalizing opened with
  | case1 position text ending hScan => exact closes_nil
  | case2 position text token rest hScan =>
    rename_i ih
    obtain ⟨gap, hGap, rfl, hLexical, hPosition, hLength⟩ := scan_token hScan
    rw [findUnbalanced_skip fun c hc => isDelimiter_of_isBlank (hGap c hc), ← hPosition] at h
    rw [List.map_cons]
    by_cases hOpen : token.kind = .openParen
    · rw [findUnbalanced_openParen hLexical hLength hOpen] at h
      rw [hOpen, closes_openParen]
      exact ih h
    by_cases hClose : token.kind = .closeParen
    · rw [findUnbalanced_closeParen hLexical hLength hClose] at h
      cases opened with
      | nil => cases h
      | cons place opened =>
        rw [hClose, List.length_cons, closes_closeParen]
        exact ih h
    · rw [findUnbalanced_other hLexical hLength hOpen hClose] at h
      rw [closes_other hOpen hClose]
      exact ih h

variable {text : String} {e : RuleError}

theorem checkParens_eq_ok_iff :
    checkParens text = .ok () ↔ findUnbalanced [] false 0 text.toList = none := by
  unfold checkParens
  split
  · rename_i hFound
    simp [hFound]
  · rename_i hFound
    simp [hFound]

theorem Cursor.tokens_eq_ok_iff {tokens : List Token} : (Cursor.start text).tokens.1 = .ok tokens ↔
    ∃ stop, (TokenStream.ofText text).ending = .endOfText stop ∧
      tokens = (TokenStream.ofText text).tokens ++ [Token.endAt stop] := by
  have hStream : (Cursor.start text).stream = TokenStream.ofText text := rfl
  rw [Cursor.tokens_fst, hStream, TokenStream.toList]
  cases (TokenStream.ofText text).ending with
  | endOfText stop => simp [eq_comm]
  | unrecognized stop => simp

/-- In a text that is tokens to its end, the check succeeds exactly if these are balanced. -/
theorem checkParens_eq_ok_iff_balances {stop : Nat}
    (h : (TokenStream.ofText text).ending = .endOfText stop) : checkParens text = .ok () ↔
      Balances 0 ((TokenStream.ofText text).tokens.map Token.kind) := by
  rw [checkParens_eq_ok_iff, findUnbalanced_eq_unmatchedParen h]
  exact unmatchedParen_eq_none_iff

theorem ofParen_of_checkParens {stop : Nat}
    (hEnding : (TokenStream.ofText text).ending = .endOfText stop)
    (h : checkParens text = .error e) : e.OfParen (TokenStream.ofText text).tokens := by
  rw [checkParens, findUnbalanced_eq_unmatchedParen hEnding] at h
  split at h
  · rename_i hFound
    cases h
    obtain hParen | ⟨place, hPlace, -⟩ := unmatchedParen_eq_some hFound
    · exact hParen
    · cases hPlace
  · cases h

/-- A parenthesis is in no string. -/
theorem not_covered_of_ofParen {tokens : List Token} {start stop : Nat}
    (hTiles : Tiles text start tokens stop) (h : e.OfParen tokens) :
    ∀ other ∈ tokens, other.kind = .string →
      ¬ (other.position ≤ e.position ∧ e.position < other.stop) := by
  intro other hOther hString hCovered
  obtain ⟨token, hMem, hToken⟩ := h
  have hPosition : e.position = token.position := by
    rcases hToken with ⟨-, rfl⟩ | ⟨-, rfl⟩ <;> rfl
  have hKind : token.kind ≠ .string := by
    rcases hToken with ⟨hKind, -⟩ | ⟨hKind, -⟩ <;> rw [hKind] <;> decide
  have hLength := (hTiles.isMunched hMem).length_pos
  rcases hTiles.apart hMem hOther with rfl | hBefore | hBehind
  · exact hKind hString
  · rw [Token.stop] at hBefore
    omega
  · omega

/-! ### What the check leaves impossible -/

/-- Where the end of the text comes next, all tokens lie in front of it. -/
theorem TokenStream.eq_of_current {stream : TokenStream} (hLexical : stream.IsLexical)
    (hCheck : stream.check = .ok ()) (h : stream.current.kind = .endOfText) :
    ∃ stop, stream = ⟨[], .endOfText stop⟩ := by
  obtain ⟨tokens, ending⟩ := stream
  cases tokens with
  | nil =>
    cases ending with
    | endOfText stop => exact ⟨stop, rfl⟩
    | unrecognized stop => cases hCheck
  | cons token tokens => exact absurd h (hLexical token List.mem_cons_self).kind_ne

section Places

variable {k : Nat} {place : Place}

/-- Where the parentheses are balanced, none is open at the end of the text. -/
theorem opened_eq_zero_of_end (hParens : checkParens text = .ok ())
    (hAfter : Place.start.after (((TokenStream.ofText text).tokens.take k).map Token.kind) =
      some place) (hCheck : ((TokenStream.ofText text).drop k).check = .ok ())
    (hEnd : ((TokenStream.ofText text).drop k).current.kind = .endOfText) : place.opened = 0 := by
  have hLexical : ((TokenStream.ofText text).drop k).IsLexical :=
    fun token hMem => isLexical_ofText text token (List.mem_of_mem_drop hMem)
  obtain ⟨stop, hDrop⟩ := TokenStream.eq_of_current hLexical hCheck hEnd
  obtain ⟨hTokens, hEnding⟩ := TokenStream.mk.inj hDrop
  rw [List.take_of_length_le (List.drop_eq_nil_iff.mp hTokens)] at hAfter
  have hCount := ((checkParens_eq_ok_iff_balances hEnding).mp hParens).2
  have hOpened : 0 + _ = place.opened + _ := Place.opened_add_count hAfter
  omega

/-- Where the parentheses are balanced, one is open wherever one is closed. -/
theorem opened_ne_zero_of_closeParen (hParens : checkParens text = .ok ())
    (hAfter : Place.start.after (((TokenStream.ofText text).tokens.take k).map Token.kind) =
      some place) (hClose : ((TokenStream.ofText text).drop k).current.kind = .closeParen) :
    place.opened ≠ 0 := by
  intro hNone
  -- With this parenthesis, the tokens in front would close one more than they open.
  have hCloses := closes_of_findUnbalanced (checkParens_eq_ok_iff.mp hParens)
  have hFront : ((TokenStream.ofText text).tokens.take k).map Token.kind ++ [.closeParen] <+:
      (TokenStream.ofText text).tokens.map Token.kind := by
    have hToken := TokenStream.getElem?_of_current (by rw [hClose]; decide)
    have hPrefix := (List.take_prefix (k + 1) (TokenStream.ofText text).tokens).map Token.kind
    rwa [List.take_add_one, hToken, Option.toList_some, List.map_append, List.map_singleton,
      hClose] at hPrefix
  have hCount := hCloses _ hFront
  have hOpened : 0 + _ = place.opened + _ := Place.opened_add_count hAfter
  rw [List.count_append, List.count_append, List.length_nil, List.count_singleton_self,
    List.count_cons_of_ne (by decide), List.count_nil] at hCount
  omega

end Places

/-- The check for unbalanced parentheses agrees with the tokens of a text: where these reach to its
end it succeeds exactly if the parentheses among them are balanced, and otherwise it is about one
of them and not about a character of a string. Behind it, no reading of any text misses a closing
parenthesis at the end or has one left over behind a rule. -/
theorem checkParens_agrees (text : String) :
    (∀ tokens, (Cursor.start text).tokens.1 = .ok tokens →
      (checkParens text = .ok () ↔ Balances 0 (tokens.map Token.kind)) ∧
      ∀ e, checkParens text = .error e → e.OfParen tokens ∧
        ∀ other ∈ tokens, other.kind = .string →
          ¬ (other.position ≤ e.position ∧ e.position < other.stop)) ∧
    ∀ options found,
      (found.kind = .endOfText →
        Rule.read options text ≠ .error (.unexpectedToken (.token .closeParen) found)) ∧
      (found.kind = .closeParen →
        Rule.read options text ≠ .error (.unexpectedToken .endOfRule found)) := by
  refine ⟨fun tokens hTokens => ?_, fun options found => ⟨fun hEnd h => ?_, fun hClose h => ?_⟩⟩
  · obtain ⟨stop, hEnding, rfl⟩ := Cursor.tokens_eq_ok_iff.mp hTokens
    have hKinds : ((TokenStream.ofText text).tokens ++ [Token.endAt stop]).map Token.kind =
        (TokenStream.ofText text).tokens.map Token.kind ++ [.endOfText] := List.map_append
    rw [hKinds, balances_concat (by decide) (by decide)]
    refine ⟨checkParens_eq_ok_iff_balances hEnding, fun e he => ?_⟩
    have hParen := ofParen_of_checkParens hEnding he
    refine ⟨?_, fun other hOther hString => ?_⟩
    · obtain ⟨token, hMem, hToken⟩ := hParen
      exact ⟨token, List.mem_append_left _ hMem, hToken⟩
    · rcases List.mem_append.mp hOther with hOther | hOther
      · exact not_covered_of_ofParen (tiles_ofText text).1 hParen other hOther hString
      · rw [List.mem_singleton.mp hOther] at hString
        cases hString
  · obtain ⟨hParens, k, place, hAfter, hFault⟩ := exists_faultAt h nofun
    generalize hExpected : Expected.token .closeParen = expected at hFault
    cases hFault with
    | unexpected hCheck hAdmits =>
      have hOpened := opened_eq_zero_of_end hParens hAfter hCheck hEnd
      obtain ⟨stage, opened⟩ := place
      obtain rfl : opened = 0 := hOpened
      cases stage <;> cases hExpected
  · obtain ⟨hParens, k, place, hAfter, hFault⟩ := exists_faultAt h nofun
    generalize hExpected : Expected.endOfRule = expected at hFault
    cases hFault with
    | unexpected hCheck hAdmits =>
      have hOpened := opened_ne_zero_of_closeParen hParens hAfter hClose
      obtain ⟨stage, _ | opened⟩ := place
      · exact hOpened rfl
      · cases stage <;> cases hExpected

theorem checkParens_agrees_sample :
    let text := "text ~ \"(\" )"
    ∃ tokens, (Cursor.start text).tokens.1 = .ok tokens ∧
      checkParens text = .error (.unbalancedParen ')' 11) ∧
      ¬ Balances 0 (tokens.map Token.kind) ∧
      (RuleError.unbalancedParen ')' 11).OfParen tokens ∧
      ∀ other ∈ tokens, other.kind = .string → ¬ (other.position ≤ 11 ∧ 11 < other.stop) := by
  intro text
  have hStream : TokenStream.ofText text =
      ⟨[⟨.name, "text", 0, 4⟩, ⟨.finds, "~", 5, 1⟩, ⟨.string, "\"(\"", 7, 3⟩,
        ⟨.closeParen, ")", 11, 1⟩], .endOfText 12⟩ := by
    decide +kernel
  have hParens : checkParens text = .error (.unbalancedParen ')' 11) := by decide
  have hTokens := Cursor.tokens_eq_ok_iff.mpr ⟨12, congrArg TokenStream.ending hStream, rfl⟩
  obtain ⟨hBalances, hError⟩ := (checkParens_agrees text).1 _ hTokens
  refine ⟨_, hTokens, hParens, fun h => ?_, hError _ hParens⟩
  cases (hBalances.mpr h).symm.trans hParens

end PostSieve.Rule
