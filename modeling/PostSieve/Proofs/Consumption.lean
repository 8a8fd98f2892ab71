import PostSieve.Proofs.Cursors
import PostSieve.Proofs.Results
import PostSieve.Rule.Parser

/-! The tokens that a parser takes: it goes through a text token by token, and where it has read a
rule it has taken all of them, each once. -/

namespace PostSieve.Rule

/-- A cursor that gives the end of the text stays where it is. -/
theorem Cursor.scan_of_next {c c' : Cursor} {token : Token} (h : c.next = .ok (token, c'))
    (hEnd : token.kind = .endOfText) :
    c' = c ∧ ∃ ending, scan TokenKind.scanned c.position c.rest = .stopped ending := by
  cases hScan : scan TokenKind.scanned c.position c.rest with
  | stopped ending =>
    rw [next, hScan] at h
    cases ending with
    | endOfText position =>
      cases h
      exact ⟨rfl, _, rfl⟩
    | unrecognized position => cases h
  | token found rest =>
    rw [next, hScan] at h
    cases h
    have hMem : token ∈ c.stream.tokens := by simp [stream, TokenStream.scanFrom_token hScan]
    exact absurd hEnd (isLexical_of_mem_scanFrom token hMem).kind_ne

/-! ### Taking tokens -/

/-- Where a parser stands: the token at hand, and the cursor behind it. -/
structure Standing where
  current : Token
  cursor : Cursor

def Parser.standing (p : Parser) : Standing := ⟨p.current, p.cursor⟩

namespace Standing

/-- Whether one stands elsewhere after taking some tokens, none of which is the end. -/
inductive Takes : Standing → List Token → Standing → Prop
  | refl (s : Standing) : Takes s [] s
  | cons {s t : Standing} {token : Token} {cursor : Cursor} {taken : List Token} :
      s.current.kind ≠ .endOfText → s.cursor.next = .ok (token, cursor) →
      Takes ⟨token, cursor⟩ taken t → Takes s (s.current :: taken) t

/-- Whether a parser that stands there goes through a text: it counts the tokens that it has taken,
and if it has the end of the text at hand, these are all tokens, and the end is what comes next. -/
structure Tracks (text : String) (s : Standing) : Prop where
  isAt : s.cursor.IsAt text s.cursor.count
  count_of_end : s.current.kind = .endOfText → s.cursor.count = (TokenStream.ofText text).size
  next_of_end : s.current.kind = .endOfText → s.cursor.next = .ok (s.current, s.cursor)

variable {s t u : Standing} {taken taken' : List Token} {text : String}

theorem tracks_of_next {k : Nat} {c c' : Cursor} {token : Token} (h : c.IsAt text k)
    (hNext : c.next = .ok (token, c')) : Tracks text ⟨token, c'⟩ where
  isAt := by
    obtain ⟨next, hEq, hAt⟩ := h.next_eq
    rw [hEq] at hNext
    cases hLookup : (TokenStream.ofText text).lookup k <;> rw [hLookup] at hNext <;> cases hNext
    exact hAt.count_eq.symm ▸ hAt
  count_of_end hEnd := by
    obtain ⟨rfl, ending, hScan⟩ := Cursor.scan_of_next hNext hEnd
    exact h.count_eq.trans (h.of_stopped hScan).1
  next_of_end hEnd := by
    obtain ⟨rfl, -⟩ := Cursor.scan_of_next hNext hEnd
    exact hNext

theorem Takes.trans (h : s.Takes taken t) (h' : t.Takes taken' u) :
    s.Takes (taken ++ taken') u := by
  induction h with
  | refl s => exact h'
  | cons hKind hNext _ ih => exact .cons hKind hNext (ih h')

theorem Tracks.of_takes (h : Tracks text s) (hTakes : s.Takes taken t) : Tracks text t := by
  induction hTakes with
  | refl s => exact h
  | cons hKind hNext _ ih => exact ih (tracks_of_next h.isAt hNext)

end Standing

namespace Parser

section Readers

variable {p : Parser}

theorem takes_advance {hKind : p.current.kind ≠ .endOfText} {step : Step Token p}
    (h : p.advance hKind = .ok step) : p.standing.Takes [p.current] step.parser.standing := by
  unfold Parser.advance at h
  split at h
  · rename_i hNext
    cases h
    exact .cons hKind hNext (.refl _)
  · cases h

theorem takes_expect {expected : Expected} {accepts : TokenKind → Bool}
    {hEnd : accepts .endOfText = false} {step : Step Token p}
    (h : p.expect expected accepts hEnd = .ok step) :
    p.standing.Takes [p.current] step.parser.standing := by
  unfold Parser.expect at h
  split at h
  · exact takes_advance h
  · cases h

/-- A condition is three tokens. -/
theorem takes_condition {step : Step Tree p} (h : p.condition = .ok step) :
    ∃ taken, p.standing.Takes taken step.parser.standing ∧ taken.length = 3 := by
  unfold Parser.condition at h
  dsimp only at h
  split at h
  · cases h
  · obtain ⟨name, hName, h⟩ := bind_eq_ok_iff.mp h
    obtain ⟨op, hOp, h⟩ := bind_eq_ok_iff.mp h
    obtain ⟨literal, hLiteral, h⟩ := bind_eq_ok_iff.mp h
    have hTakes := ((takes_expect hName).trans (takes_expect hOp)).trans (takes_expect hLiteral)
    split at h
    · cases h
      exact ⟨_, hTakes, rfl⟩
    · cases h

end Readers

mutual

/-- An operand is a condition, or a chain and two parentheses. -/
theorem takes_operand {p : Parser} {depth : Nat} {step : Step Tree p}
    (h : p.operand depth = .ok step) :
    ∃ taken, p.standing.Takes taken step.parser.standing ∧ 3 ≤ taken.length := by
  rw [Parser.operand] at h
  split at h
  · split at h
    · cases h
    · obtain ⟨opened, hOpened, h⟩ := bind_eq_ok_iff.mp h
      obtain ⟨inner, hInner, h⟩ := bind_eq_ok_iff.mp h
      obtain ⟨closed, hClosed, h⟩ := bind_eq_ok_iff.mp h
      cases h
      have := opened.nearer
      obtain ⟨taken, hTakes, hLength⟩ := takes_chain hInner
      refine ⟨_, ((takes_expect hOpened).trans hTakes).trans (takes_expect hClosed), ?_⟩
      rw [List.length_append, List.length_append]
      omega
  · obtain ⟨read, hRead, h⟩ := bind_eq_ok_iff.mp h
    cases h
    obtain ⟨taken, hTakes, hLength⟩ := takes_condition hRead
    exact ⟨taken, hTakes, hLength.ge⟩
termination_by (p.room, 0)

/-- A chain is at least an operand. -/
theorem takes_chain {p : Parser} {depth : Nat} {step : Step Tree p}
    (h : p.chain depth = .ok step) :
    ∃ taken, p.standing.Takes taken step.parser.standing ∧ 3 ≤ taken.length := by
  rw [Parser.chain] at h
  obtain ⟨first, hFirst, h⟩ := bind_eq_ok_iff.mp h
  obtain ⟨⟨⟨tree, last⟩, hLe⟩, hLast, h⟩ := bind_eq_ok_iff.mp h
  cases h
  have := first.nearer
  obtain ⟨taken, hTakes, hLength⟩ := takes_operand hFirst
  obtain ⟨taken', hTakes'⟩ := takes_others hLast
  refine ⟨_, hTakes.trans hTakes', ?_⟩
  rw [List.length_append]
  omega
termination_by (p.room, 2)

theorem takes_others {p : Parser} {depth : Nat} {pending : List (Tree × Join)} {tree : Tree}
    {last : { r : Tree × Parser // r.2.room ≤ p.room }}
    (h : p.others depth pending tree = .ok last) :
    ∃ taken, p.standing.Takes taken last.1.2.standing := by
  rw [Parser.others] at h
  split at h
  · cases h
    exact ⟨[], .refl _⟩
  · obtain ⟨join, hJoin, h⟩ := bind_eq_ok_iff.mp h
    obtain ⟨next, hNext, h⟩ := bind_eq_ok_iff.mp h
    obtain ⟨⟨r, hLe⟩, hOthers, h⟩ := bind_eq_ok_iff.mp h
    cases h
    have := join.nearer
    have := next.nearer
    obtain ⟨taken, hTakes, -⟩ := takes_operand hNext
    obtain ⟨taken', hTakes'⟩ := takes_others hOthers
    exact ⟨_, ((takes_advance hJoin).trans hTakes).trans hTakes'⟩
termination_by (p.room, 1)

end

/-- A reading of a rule is that of a chain, from the first token of the text on up to the end. -/
theorem exists_chain_of_parse {p q : Parser} {rule : Rule} (h : p.parse = (.ok rule, q)) :
    checkParens p.cursor.text = .ok () ∧ ∃ token cursor root,
      p.cursor.reset.next = .ok (token, cursor) ∧
      chain 0 ⟨p.options, cursor, token, 0, 0⟩ = .ok root ∧ root.parser = q ∧
      q.current.kind = .endOfText ∧ rule.nodeCount = q.nodeCount := by
  unfold parse at h
  dsimp only at h
  split at h
  · cases h
  rename_i hParens
  split at h
  · cases h
  rename_i token cursor hNext
  split at h
  · cases h
  rename_i root hRoot
  split at h
  · rename_i hEnd
    cases h
    exact ⟨hParens, token, cursor, root, hNext, hRoot, rfl, hEnd, rfl⟩
  · cases h

/-- A parser that has read a rule has taken each token of the text once. -/
theorem count_of_parse {p q : Parser} {rule : Rule} (h : p.parse = (.ok rule, q)) :
    q.cursor.count = (TokenStream.ofText p.cursor.text).size := by
  obtain ⟨-, token, cursor, root, hNext, hRoot, rfl, hEnd, -⟩ := exists_chain_of_parse h
  obtain ⟨taken, hTakes, -⟩ := takes_chain hRoot
  have hTracks := Standing.tracks_of_next (Cursor.isAt_start p.cursor.text) hNext
  exact (hTracks.of_takes hTakes).count_of_end hEnd

end Parser

end PostSieve.Rule
