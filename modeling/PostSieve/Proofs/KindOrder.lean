import PostSieve.Proofs.Tiling

/-! The order of the kinds: no two of them measure the same length at a place, so that the tokens of
a text are the same in whatever order the kinds are tried. -/

namespace PostSieve.Rule

section Places

variable {kind other : TokenKind} {kinds : List TokenKind} {text : List Char}

/-- The matches that the patterns of two kinds prefer at a place have the same length only if there
are none: of one length there is one text, and no text is a token of both. -/
theorem TokenKind.eq_of_measure_eq (h : kind.pattern.measure text = other.pattern.measure text)
    (hPos : 0 < kind.pattern.measure text) : kind = other := by
  have hToken := TokenPattern.matches_take_measure hPos
  have hOther := TokenPattern.matches_take_measure (h ▸ hPos)
  rw [← h] at hOther
  exact (matches_pattern_iff.mp hToken).unique (matches_pattern_iff.mp hOther)

/-- The longest token is longer than what any other kind measures. -/
theorem measure_lt_of_longest {n : Nat} (h : longest kinds text = some (kind, n))
    (hOther : other ∈ kinds) (hNe : other ≠ kind) : other.measure text < n := by
  obtain ⟨hMeasure, hPos⟩ := longest_spec h
  have hLe : other.measure text ≤ measured (longest kinds text) := measure_le_longest hOther
  rw [h, measured, Option.elim_some] at hLe
  apply lt_of_le_of_ne hLe
  intro hEq
  apply hNe
  apply TokenKind.eq_of_measure_eq
  · rw [other.measure_pattern, kind.measure_pattern, hEq, hMeasure]
  · rwa [other.measure_pattern, hEq]

/-- Whatever kinds are tried besides those of tokens, and in whatever order, the same token is
found. -/
theorem longest_eq_of_subset (h : TokenKind.scanned ⊆ kinds) (text : List Char) :
    longest kinds text = longest TokenKind.scanned text := by
  cases hFound : longest kinds text with
  | some found =>
    obtain ⟨kind, n⟩ := found
    obtain ⟨rfl, hPos⟩ := longest_spec hFound
    have hMem : kind ∈ TokenKind.scanned :=
      mem_scanned (TokenKind.language_take_measure hPos)
    symm
    apply longest_of_max hMem hPos
    intro other hOther hNe
    exact measure_lt_of_longest hFound (h hOther) hNe
  | none =>
    cases hOther : longest TokenKind.scanned text with
    | none => rfl
    | some found =>
      obtain ⟨kind, n⟩ := found
      obtain ⟨rfl, hPos⟩ := longest_spec hOther
      have hMem : kind ∈ TokenKind.scanned :=
        mem_scanned (TokenKind.language_take_measure hPos)
      have hLe : kind.measure text ≤ measured (longest kinds text) := measure_le_longest (h hMem)
      rw [hFound] at hLe
      exact absurd hPos (Nat.not_lt.mpr hLe)

end Places

/-! ### Scanning in another order -/

section Scans

variable {kinds : List TokenKind} (h : TokenKind.scanned ⊆ kinds)
include h

theorem scan_eq_of_subset (position : Nat) (text : List Char) :
    scan kinds position text = scan TokenKind.scanned position text := by
  have hLongest := longest_eq_of_subset h (dropBlanks text)
  unfold scan
  simp only [hLongest]

theorem scanFrom_eq_of_subset (position : Nat) (text : List Char) :
    TokenStream.scanFrom kinds position text =
      TokenStream.scanFrom TokenKind.scanned position text := by
  fun_induction TokenStream.scanFrom kinds position text with
  | case1 position text ending hScan =>
    rw [scan_eq_of_subset h] at hScan
    exact (TokenStream.scanFrom_stopped hScan).symm
  | case2 position text token rest hScan _ stream ih =>
    rw [scan_eq_of_subset h] at hScan
    rw [TokenStream.scanFrom_token hScan, ← ih]

end Scans

/-- The order in which the kinds are tried is of no concern. In every other order each scan, from
any place of any text, finds the same, and so a text gives the same tokens or the same error. For no
two kinds do the matches that their patterns prefer at one place have the same length, so that which
of two equally long tokens is taken never matters. -/
theorem tokens_eq_of_perm {kinds : List TokenKind} (h : kinds.Perm TokenKind.scanned) :
    (∀ position text, scan kinds position text = scan TokenKind.scanned position text) ∧
    (∀ text : String, (TokenStream.scanFrom kinds 0 text.toList).toList =
      (Cursor.start text).tokens.1) ∧
    ∀ text, ∀ kind ∈ kinds, ∀ other ∈ kinds, kind ≠ other →
      0 < kind.pattern.measure text → kind.pattern.measure text ≠ other.pattern.measure text := by
  have hSubset := h.symm.subset
  refine ⟨scan_eq_of_subset hSubset, fun text => ?_, ?_⟩
  · rw [Cursor.tokens_fst, scanFrom_eq_of_subset hSubset]
    rfl
  · intro text kind _ other _ hNe hPos hEq
    exact hNe (TokenKind.eq_of_measure_eq hEq hPos)

theorem tokens_eq_of_perm_reverse : TokenKind.scanned.reverse.Perm TokenKind.scanned ∧
    TokenStream.toList (.scanFrom TokenKind.scanned.reverse 0 ">=3m".toList) =
      (Cursor.start ">=3m").tokens.1 ∧
    (Cursor.start ">=3m").tokens.1 =
      .ok [⟨.ge, ">=", 0, 2⟩, ⟨.age, "3m", 2, 2⟩, .endAt 4] ∧
    TokenKind.gt.pattern.measure ">=3m".toList ≠ TokenKind.ge.pattern.measure ">=3m".toList := by
  have hPerm := TokenKind.scanned.reverse_perm
  obtain ⟨-, hTokens, hMeasure⟩ := tokens_eq_of_perm hPerm
  refine ⟨hPerm, hTokens _, ?_, hMeasure _ .gt ?_ .ge ?_ nofun ?_⟩
  · decide +kernel
  all_goals decide

end PostSieve.Rule
