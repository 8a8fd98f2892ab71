import PostSieve.CommandLine.Outcome
import PostSieve.Proofs.Balance
import PostSieve.Proofs.Faults
import PostSieve.Proofs.Tiling

/-! The places of errors: what an error of reading a rule is about stands in the text at the byte
that it gives, so that the program marks the character there. -/

namespace PostSieve.Rule

open CommandLine (column? pointAt)

/-! ### What stands behind some tokens -/

/-- Whether a token is what is found behind the first `k` tokens of a text: the longest one where it
stands, or the end, where only blanks remain. -/
structure FoundAt (text : String) (k : Nat) (found : Token) : Prop where
  lookup_eq : (TokenStream.ofText text).lookup k = .ok found
  isSlice : IsSlice text found.position found.stop found.value
  isMunched : found.kind ≠ .endOfText → IsMunched text found
  value_eq_iff : found.value = "" ↔ found.kind = .endOfText
  isGap_iff : IsGap text ((TokenStream.ofText text).stopAfter k) text.utf8ByteSize ↔
    found.kind = .endOfText
  position_eq : found.kind = .endOfText → found.position = text.utf8ByteSize

/-- Whether what an error says holds of the text at the byte that it gives. -/
def RuleError.Points (options : Options) (text : String) : RuleError → Prop
  | unrecognizedToken position => NoTokenAt text position
  | unbalancedParen paren position =>
    IsSlice text position (position + paren.utf8Size) (String.singleton paren)
  | unexpectedToken _ found => ∃ k, FoundAt text k found
  | invalidCondition _ token =>
    token ∈ (TokenStream.ofText text).tokens ∧ IsMunched text token
  | nestingTooDeep maxDepth position => maxDepth = options.maxDepth ∧
    ∃ k token, (TokenStream.ofText text).tokens[k]? = some token ∧ IsMunched text token ∧
      token.kind = .openParen ∧ token.position = position ∧
      (((TokenStream.ofText text).tokens.take k).map Token.kind).foldl TokenKind.openedAfter 0 =
        maxDepth
  | tooManyConditions maxConditions position => maxConditions = options.maxConditions ∧
    ∃ k found, FoundAt text k found ∧ found.position = position

variable {options : Options} {text : String} {e : RuleError} {k : Nat}

theorem foundAt_token {token : Token} (h : (TokenStream.ofText text).tokens[k]? = some token) :
    FoundAt text k token := by
  have hTiles := (tiles_ofText text).1
  have hMunched := hTiles.isMunched (List.mem_of_getElem? h)
  have hStart : (TokenStream.ofText text).stopAfter k ≤ token.position := by
    refine (hTiles.drop k).le_position (List.mem_of_getElem? (i := 0) ?_)
    rw [List.getElem?_drop, Nat.add_zero, h]
  have hStop := le_of_isValid hMunched.isSlice.stop_valid
  constructor
  case lookup_eq => exact TokenStream.lookup_eq_ok h
  case isSlice => exact hMunched.isSlice
  case isMunched => exact fun _ => hMunched
  case value_eq_iff => exact iff_of_false hMunched.value_ne hMunched.kind_ne
  case isGap_iff => exact iff_of_false (hMunched.not_isGap hStart hStop) hMunched.kind_ne
  case position_eq => exact fun hEnd => absurd hEnd hMunched.kind_ne

theorem foundAt_end {stop : Nat} (h : (TokenStream.ofText text).size ≤ k)
    (hEnding : (TokenStream.ofText text).ending = .endOfText stop) :
    FoundAt text k (Token.endAt stop) := by
  obtain ⟨hTiles, hHolds⟩ := tiles_ofText text
  rw [hEnding] at hTiles hHolds
  obtain rfl : stop = text.utf8ByteSize := hHolds
  have hGap := hTiles.drop k
  rw [List.drop_eq_nil_iff.mpr h] at hGap
  constructor
  case lookup_eq =>
    rw [TokenStream.lookup_of_size_le h, TokenStream.last, hEnding]
  case isSlice =>
    have hSlice := @isSlice_of_append text text.toList [] [] (by simp)
    rwa [byteLength_toList] at hSlice
  case isMunched => exact fun hEnd => absurd rfl hEnd
  case value_eq_iff => exact iff_of_true rfl rfl
  case isGap_iff => exact iff_of_true hGap rfl
  case position_eq => exact fun _ => rfl

/-- Whatever is found behind some tokens stands there. -/
theorem foundAt_of_lookup {found : Token} (h : (TokenStream.ofText text).lookup k = .ok found) :
    FoundAt text k found := by
  cases hToken : (TokenStream.ofText text).tokens[k]? with
  | some token =>
    cases (TokenStream.lookup_eq_ok hToken).symm.trans h
    exact foundAt_token hToken
  | none =>
    have hLe := List.getElem?_eq_none_iff.mp hToken
    rw [TokenStream.lookup_of_size_le hLe, TokenStream.last] at h
    split at h
    · rename_i hEnding
      cases h
      exact foundAt_end hLe hEnding
    · cases h

/-! ### What errors say -/

/-- The error of a text that is no rule is about what stands in the text where it says. -/
theorem points_of_read (h : Rule.read options text = .error e) : e.Points options text := by
  have hTiles := tiles_ofText text
  rcases read_error h with hParens | ⟨-, hStops⟩
  · obtain ⟨paren, place, rfl, before, after, hText, rfl⟩ := checkParens_eq_error hParens
    have hSlice := @isSlice_of_append text before [paren] after hText
    rw [RuleError.Points, Nat.zero_add]
    simpa using hSlice
  obtain ⟨k, place, hAfter, hFault⟩ := hStops.exists_index
  cases hFault with
  | unrecognized hTokens hEnding =>
    have hHolds := hTiles.2
    rw [show (TokenStream.ofText text).ending = _ from hEnding] at hHolds
    exact hHolds
  | unexpected hCheck hAdmits =>
    exact ⟨k, foundAt_of_lookup (TokenStream.lookup_of_check hCheck)⟩
  | tooDeep hOpen hOpened =>
    have hToken := TokenStream.getElem?_of_current (by rw [hOpen]; decide)
    refine ⟨rfl, k, _, hToken, hTiles.1.isMunched (List.mem_of_getElem? hToken), hOpen, rfl, ?_⟩
    rw [← hOpened]
    exact Place.foldl_openedAfter hAfter
  | tooMany hCheck hOpen hCount =>
    exact ⟨rfl, k, _, foundAt_of_lookup (TokenStream.lookup_of_check hCheck), rfl⟩
  | @invalid _ name op literal token tokens _ hTokens hName hOp hLiteral hMem hConditionOf =>
    have hMem' : token ∈ (TokenStream.ofText text).tokens := by
      refine List.mem_of_mem_drop (i := k) ?_
      rw [show (TokenStream.ofText text).tokens.drop k = _ from hTokens]
      exact List.mem_append_left tokens hMem
    exact ⟨hMem', hTiles.1.isMunched hMem'⟩

theorem RuleError.Points.isValid (h : e.Points options text) :
    String.Pos.Raw.IsValid text ⟨e.position⟩ := by
  cases e with
  | unrecognizedToken position =>
    obtain ⟨-, ⟨c, hSlice, -⟩, -⟩ := h
    exact hSlice.start_valid
  | unbalancedParen paren position => exact IsSlice.start_valid h
  | unexpectedToken expected found =>
    obtain ⟨k, hFound⟩ := h
    exact hFound.isSlice.start_valid
  | invalidCondition fault token => exact h.2.isSlice.start_valid
  | nestingTooDeep maxDepth position =>
    obtain ⟨-, k, token, -, hMunched, -, rfl, -⟩ := h
    exact hMunched.isSlice.start_valid
  | tooManyConditions maxConditions position =>
    obtain ⟨-, k, found, hFound, rfl⟩ := h
    exact hFound.isSlice.start_valid

/-! ### The mark below a rule -/

def spaces (count : Nat) : String := String.ofList (List.replicate count ' ')

/-- The column of the byte behind a part of a text is the number of characters in that part. -/
theorem column?_append (before after : List Char) :
    column? (byteLength before) (before ++ after) = some before.length := by
  induction before with
  | nil => rw [byteLength_nil, column?, List.length_nil]
  | cons c before ih =>
    obtain ⟨n, hSize⟩ := Nat.exists_eq_add_of_lt c.utf8Size_pos
    have hSum : c.utf8Size + byteLength before = n + byteLength before + 1 := by omega
    have hLe : c.utf8Size ≤ n + byteLength before + 1 := by omega
    have hRest : n + byteLength before + 1 - c.utf8Size = byteLength before := by omega
    rw [byteLength_cons, List.cons_append, hSum, column?, if_pos hLe, hRest, ih]
    rfl

/-- What an error says holds of the text at the byte that it gives, which is the boundary of a
character, and the program marks it there: below the rule, behind as many spaces as there are
characters in front of that byte, and two more. -/
theorem read_error_points (h : Rule.read options text = .error e) :
    e.Points options text ∧ String.Pos.Raw.IsValid text ⟨e.position⟩ ∧
      e.position ≤ text.utf8ByteSize ∧
      ∃ before after, text.toList = before ++ after ∧ e.position = byteLength before ∧
        column? e.position text.toList = some before.length ∧
        pointAt text e = s!"{e.message}\n  {text}\n  {spaces before.length}^" := by
  have hPoints := points_of_read h
  have hValid := hPoints.isValid
  obtain ⟨before, after, hText, hPosition⟩ := exists_append_of_isValid hValid
  have hColumn : column? e.position text.toList = some before.length := by
    rw [hPosition, hText, column?_append]
  refine ⟨hPoints, hValid, le_of_isValid hValid, before, after, hText, hPosition, hColumn, ?_⟩
  rw [pointAt, hColumn]
  rfl

theorem read_error_points_sample :
    let text := "\"é\" )"
    let options : Options := { now := .epoch }
    let e : RuleError := .unbalancedParen ')' 5
    Rule.read options text = .error e ∧
      e.Points options text ∧ String.Pos.Raw.IsValid text ⟨5⟩ ∧ 5 ≤ text.utf8ByteSize ∧
      ∃ before after, text.toList = before ++ after ∧ 5 = byteLength before ∧
        column? 5 text.toList = some before.length ∧
        pointAt text e = s!"{e.message}\n  {text}\n  {spaces before.length}^" := by
  intro text options e
  have hParens : checkParens text = .error e := by decide
  have hRead : Rule.read options text = .error e := bind_eq_error_iff.mpr (.inl hParens)
  exact ⟨hRead, read_error_points hRead⟩

/-- The mark counts characters, of which there are fewer than bytes. -/
example : pointAt "\"é\" )" (.unbalancedParen ')' 5) =
    "Unbalanced ')' at position 5\n  \"é\" )\n      ^" := by decide +kernel

end PostSieve.Rule
