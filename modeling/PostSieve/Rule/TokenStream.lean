import PostSieve.Rule.Error

/-! The tokens of a text, up to its end or up to the first place where no token starts. -/

namespace PostSieve.Rule

theorem length_le_of_startsWith : ∀ {classes : List (Char → Bool)} {text : List Char},
    startsWith classes text = true → classes.length ≤ text.length
  | [], _, _ => Nat.zero_le _
  | _ :: _, [], h => by cases h
  | _ :: _, _ :: _, h => by
    simp only [startsWith, Bool.and_eq_true] at h
    exact Nat.succ_le_succ (length_le_of_startsWith h.2)

theorem measureClasses_le (classes : List (Char → Bool)) (text : List Char) :
    measureClasses classes text ≤ text.length := by
  unfold measureClasses
  split
  · exact length_le_of_startsWith (by assumption)
  · exact Nat.zero_le _

theorem measureUnit_le (unit : Char) (text : List Char) :
    measureUnit unit text ≤ text.length := by
  unfold measureUnit
  simp only
  split
  · rename_i h
    have : (text.drop (text.takeWhile Char.isDigit).length).length ≠ 0 := by
      intro h0
      rw [List.length_eq_zero_iff.mp h0] at h
      simp at h
    rw [List.length_drop] at this
    omega
  · omega

theorem measureAge_le (text : List Char) : measureAge text ≤ text.length := by
  have h1 := measureUnit_le 'y' text
  have h2 := measureUnit_le 'm' (text.drop (measureUnit 'y' text))
  have h3 := measureUnit_le 'd' (text.drop (measureUnit 'y' text +
    measureUnit 'm' (text.drop (measureUnit 'y' text))))
  simp only [List.length_drop] at h2 h3
  unfold measureAge
  simp only
  omega

theorem measureString_le (text : List Char) : measureString text ≤ text.length := by
  unfold measureString
  split
  · rename_i text
    simp only
    split
    · rename_i h
      have : (text.drop (text.takeWhile (· != '"')).length).length ≠ 0 := by
        intro h0
        rw [List.length_eq_zero_iff.mp h0] at h
        simp at h
      rw [List.length_drop] at this
      simp only [List.length_cons]
      omega
    · omega
  · omega

theorem TokenKind.measure_le (kind : TokenKind) (text : List Char) :
    kind.measure text ≤ text.length := by
  cases kind <;> simp only [TokenKind.measure, measureSymbol, measureClasses_le, measureAge_le,
    measureString_le, Nat.zero_le, (List.takeWhile_prefix _).length_le]

/-- The kind found measures the length found, which is positive. -/
theorem longest_spec {kinds : List TokenKind} {text : List Char} {kind : TokenKind} {n : Nat}
    (h : longest kinds text = some (kind, n)) : kind.measure text = n ∧ 0 < n := by
  let P : Option (TokenKind × Nat) → Prop :=
    fun best => ∀ kind n, best = some (kind, n) → kind.measure text = n ∧ 0 < n
  suffices hP : P (longest kinds text) from hP kind n h
  unfold longest
  refine List.foldlRecOn kinds _ (motive := P) (by intro _ _ h; cases h) ?_
  intro best ih k _
  simp only
  split
  · split
    · rename_i hm
      intro _ _ h
      cases h
      exact ⟨rfl, Nat.lt_of_le_of_lt (Nat.zero_le _) hm⟩
    · exact ih
  · split
    · intro _ _ h
      cases h
      exact ⟨rfl, by assumption⟩
    · intro _ _ h
      cases h

theorem longest_pos {kinds : List TokenKind} {text : List Char} {kind : TokenKind} {n : Nat}
    (h : longest kinds text = some (kind, n)) : 0 < n := (longest_spec h).2

theorem longest_le {kinds : List TokenKind} {text : List Char} {kind : TokenKind} {n : Nat}
    (h : longest kinds text = some (kind, n)) : n ≤ text.length := by
  rw [← (longest_spec h).1]
  exact kind.measure_le text

/-- Where and why a sequence of tokens stops. -/
inductive Ending
  | endOfText (position : Nat)
  | unrecognized (position : Nat)
deriving DecidableEq, Repr

/-- The offset at which the tokens stop. -/
def Ending.position : Ending → Nat
  | endOfText position => position
  | unrecognized position => position

/-- What the head of a text is, after its blanks. -/
inductive Scan
  | stopped (ending : Ending)
  | token (token : Token) (rest : List Char)

/-- Scans the head of `text`, which lies at byte `position` of the rule. The value of a token is
what was found there, trimmed. -/
def scan (kinds : List TokenKind) (position : Nat) (text : List Char) : Scan :=
  let start := position + byteLength (text.takeWhile isBlank)
  let rest := dropBlanks text
  if rest = [] then .stopped (.endOfText start)
  else
    match longest kinds rest with
    | none => .stopped (.unrecognized start)
    | some (kind, n) =>
      let found := rest.take n
      .token ⟨kind, String.ofList (trimBlanks found), start, byteLength found⟩ (rest.drop n)

/-- A token takes at least one character of the text. -/
theorem length_lt_of_scan {kinds : List TokenKind} {position : Nat} {text rest : List Char}
    {token : Token} (h : scan kinds position text = .token token rest) :
    rest.length < text.length := by
  unfold scan at h
  simp only at h
  split at h
  · cases h
  · split at h
    · cases h
    · rename_i hn
      cases h
      have := longest_pos hn
      have := longest_le hn
      have := length_dropBlanks_le text
      rw [List.length_drop]
      omega

/-- A sequence of tokens and what stops it. -/
structure TokenStream where
  tokens : List Token
  ending : Ending
deriving DecidableEq, Repr

namespace TokenStream

/-- The tokens of `text`, which lies at byte `position` of the rule. -/
def scanFrom (kinds : List TokenKind) (position : Nat) (text : List Char) : TokenStream :=
  match h : scan kinds position text with
  | .stopped ending => ⟨[], ending⟩
  | .token token rest =>
    have := length_lt_of_scan h
    let stream := scanFrom kinds token.stop rest
    ⟨token :: stream.tokens, stream.ending⟩
termination_by text.length

def ofText (text : String) : TokenStream := scanFrom TokenKind.scanned 0 text.toList

/-- The tokens with the end of the text as the last one, unless something else stops them. -/
def toList (stream : TokenStream) : Except RuleError (List Token) :=
  match stream.ending with
  | .endOfText position => .ok (stream.tokens ++ [Token.endAt position])
  | .unrecognized position => .error (.unrecognizedToken position)

/-- The first token, or the end. -/
def current (stream : TokenStream) : Token :=
  stream.tokens.headD (Token.endAt stream.ending.position)

def size (stream : TokenStream) : Nat := stream.tokens.length

/-- Fails where text that is no token comes next. -/
def check (stream : TokenStream) : Except RuleError Unit :=
  match stream.tokens, stream.ending with
  | [], .unrecognized position => .error (.unrecognizedToken position)
  | _, _ => .ok ()

end TokenStream

end PostSieve.Rule
