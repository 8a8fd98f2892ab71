import PostSieve.Proofs.Dates
import PostSieve.Proofs.Decimals
import PostSieve.Proofs.Reading

/-! Conditions: which of them mean something, and the tests that they come to. -/

namespace PostSieve.Rule

open Calendar (Instant Age NamesDate readDate readDate_eq_ok_iff)

/-- Whether a string literal stands for a text: the characters between its quotes. -/
def Quotes (value source : String) : Prop := value.toList = '"' :: (source.toList ++ ['"'])

/-- Whether a literal has a value that a field can be compared with at `now`. -/
def Field.Accepts (now : Instant) (value : String) : Field → Prop
  | age => ∃ t, Age.instantBefore value now = .ok t
  | created => ∃ d, NamesDate value d
  | text => ∃ source pattern, Quotes value source ∧ Pattern.read? source = some pattern
  | likes | retweets => decimalValue value.toList < UInt64.size

/-- Whether a condition has a meaning at `now`: it names a field, compares it by one of the field's
operators, and with a literal of the field's kind that the field accepts. -/
def Condition.Valid (now : Instant) (c : Condition) : Prop :=
  ∃ field : Field, c.name = field.name ∧ c.op ∈ field.operators ∧
    c.literal.kind = field.literal ∧ field.Accepts now c.literal.value

/-! ### Names and literals -/

theorem Field.name_injective {field field' : Field} (h : field.name = field'.name) :
    field = field' := by
  cases field <;> cases field' <;> first | rfl | exact absurd h (by decide)

theorem Field.ofName?_eq_some_iff {name : String} {field : Field} :
    Field.ofName? name = some field ↔ name = field.name := by
  constructor
  · intro h
    have hName := List.find?_some (p := fun f : Field => f.name == name) h
    exact (eq_of_beq hName).symm
  · rintro rfl
    cases field <;> rfl

theorem exists_quotes {value : String} (h : TokenKind.string.Language value.toList) :
    Quotes value (unquoted value) := by
  obtain ⟨body, -, hValue⟩ := h
  rw [Quotes, unquoted, hValue, String.toList_ofList, List.drop_succ_cons, List.drop_zero,
    List.dropLast_concat]

theorem Quotes.unquoted_eq {value source : String} (h : Quotes value source) :
    unquoted value = source := by
  rw [unquoted, h, List.drop_succ_cons, List.drop_zero, List.dropLast_concat, String.ofList_toList]

theorem readWord64?_eq_some_iff {text : List Char} (h : TokenKind.number.Language text)
    {n : UInt64} : readWord64? text = some n ↔ n.toNat = decimalValue text :=
  readWord64?_eq_some.trans ⟨fun hWrites => hWrites.2.2.symm, fun hNat => ⟨h.1, h.2, hNat.symm⟩⟩

/-! ### Comparisons of counts -/

namespace Comparator

theorem ofToken?_eq_some_iff {op : TokenKind} {c : Comparator} :
    ofToken? op = some c ↔ op = c.token := by
  cases op <;> cases c <;> simp [ofToken?, token]

theorem exists_ofToken? {op : TokenKind} (h : op ∈ Field.likes.operators) :
    ∃ c, ofToken? op = some c := by
  cases op <;> first | exact ⟨_, rfl⟩ | exact absurd h (by decide)

end Comparator

/-! ### The tests that a condition comes to -/

/-- The tests of a condition on a time: created before the instant, or after it. -/
def Criteria.ofBound (isBefore : Prop) [Decidable isBefore] (t : Instant) : Criteria :=
  if isBefore then { before := t } else { after := t }

namespace Field

variable {now : Instant} {op : TokenKind} {value : String} {tests : Criteria}

theorem criteria_age : age.criteria now op value = .ok tests ↔
    ∃ t, Age.instantBefore value now = .ok t ∧
      tests = Criteria.ofBound (op = .gt ∨ op = .ge) t := by
  rw [criteria, bind_eq_ok_iff]
  simp only [mapError_eq_ok_iff]
  exact exists_congr fun t => and_congr_right fun _ => pure_eq_ok_iff

theorem criteria_created : created.criteria now op value = .ok tests ↔
    ∃ t, readDate value = .ok t ∧ tests = Criteria.ofBound (op = .lt ∨ op = .le) t := by
  rw [criteria, bind_eq_ok_iff]
  simp only [mapError_eq_ok_iff]
  exact exists_congr fun t => and_congr_right fun _ => pure_eq_ok_iff

theorem criteria_text : text.criteria now op value = .ok tests ↔
    ∃ pattern, Pattern.read? (unquoted value) = some pattern ∧
      tests = { matching := some ⟨pattern, op == .lacks⟩ } := by
  rw [criteria]
  cases Pattern.read? (unquoted value) <;> simp [eq_comm]

theorem countBound_eq_ok_iff {field : Field} {bound : CountBound} :
    criteria.countBound op value field = .ok bound ↔
      readWord64? value.toList = some bound.threshold ∧
        Comparator.ofToken? op = some bound.comparator := by
  obtain ⟨comparator, threshold⟩ := bound
  unfold criteria.countBound
  cases readWord64? value.toList with
  | none => simp
  | some n => cases Comparator.ofToken? op <;> simp [and_comm]

theorem criteria_likes : likes.criteria now op value = .ok tests ↔
    ∃ bound, criteria.countBound op value likes = .ok bound ∧
      tests = { likes := some bound } := by
  rw [criteria, bind_eq_ok_iff]
  exact exists_congr fun bound => and_congr_right fun _ => pure_eq_ok_iff

theorem criteria_retweets : retweets.criteria now op value = .ok tests ↔
    ∃ bound, criteria.countBound op value retweets = .ok bound ∧
      tests = { retweets := some bound } := by
  rw [criteria, bind_eq_ok_iff]
  exact exists_congr fun bound => and_congr_right fun _ => pure_eq_ok_iff

theorem exists_countBound_iff {field : Field} (hOp : op ∈ likes.operators)
    (hLiteral : TokenKind.number.Language value.toList) :
    (∃ bound, criteria.countBound op value field = .ok bound) ↔
      decimalValue value.toList < UInt64.size := by
  obtain ⟨comparator, hComparator⟩ := Comparator.exists_ofToken? hOp
  simp only [countBound_eq_ok_iff, readWord64?_eq_some_iff hLiteral]
  constructor
  · rintro ⟨bound, hThreshold, -⟩
    exact hThreshold ▸ bound.threshold.toNat_lt
  · intro hLt
    refine ⟨⟨comparator, .ofNat (decimalValue value.toList)⟩, ?_, hComparator⟩
    exact UInt64.toNat_ofNat_of_lt' hLt

/-- A field has tests for exactly the literals that it accepts. -/
theorem exists_criteria_iff {field : Field} (hOp : op ∈ field.operators)
    (hLiteral : field.literal.Language value.toList) :
    (∃ tests, field.criteria now op value = .ok tests) ↔ field.Accepts now value := by
  cases field with
  | age =>
    simp only [criteria_age, Accepts]
    exact ⟨fun ⟨_, t, ht, _⟩ => ⟨t, ht⟩, fun ⟨t, ht⟩ => ⟨_, t, ht, rfl⟩⟩
  | created =>
    simp only [criteria_created, readDate_eq_ok_iff hLiteral, Accepts]
    constructor
    · rintro ⟨_, t, ⟨d, hd, -⟩, -⟩
      exact ⟨d, hd⟩
    · rintro ⟨d, hd⟩
      obtain ⟨t, ht⟩ := hd.exists_midnight
      exact ⟨_, t, ⟨d, hd, ht⟩, rfl⟩
  | text =>
    simp only [criteria_text, Accepts]
    constructor
    · rintro ⟨_, pattern, hPattern, -⟩
      exact ⟨_, pattern, exists_quotes hLiteral, hPattern⟩
    · rintro ⟨source, pattern, hQuotes, hPattern⟩
      exact ⟨_, pattern, hQuotes.unquoted_eq ▸ hPattern, rfl⟩
  | likes =>
    rw [Accepts, ← @exists_countBound_iff op value likes hOp hLiteral]
    simp only [criteria_likes]
    exact ⟨fun ⟨_, bound, h, _⟩ => ⟨bound, h⟩, fun ⟨bound, h⟩ => ⟨_, bound, h, rfl⟩⟩
  | retweets =>
    rw [Accepts, ← @exists_countBound_iff op value retweets hOp hLiteral]
    simp only [criteria_retweets]
    exact ⟨fun ⟨_, bound, h, _⟩ => ⟨bound, h⟩, fun ⟨bound, h⟩ => ⟨_, bound, h, rfl⟩⟩

end Field

/-- A condition has a tree exactly if it has a meaning. -/
theorem Condition.exists_means_iff {now : Instant} {c : Condition}
    (hLexical : c.IsLexical) : (∃ tree, c.Means now tree) ↔ c.Valid now := by
  constructor
  · rintro ⟨_, field, tests, hField, hOp, hLiteral, hTests, -⟩
    have hLanguage : field.literal.Language c.literal.value.toList := hLiteral ▸ hLexical.2
    exact ⟨field, Field.ofName?_eq_some_iff.mp hField, hOp, hLiteral,
      (Field.exists_criteria_iff hOp hLanguage).mp ⟨tests, hTests⟩⟩
  · rintro ⟨field, hName, hOp, hLiteral, hAccepts⟩
    have hLanguage : field.literal.Language c.literal.value.toList := hLiteral ▸ hLexical.2
    obtain ⟨tests, hTests⟩ := (Field.exists_criteria_iff hOp hLanguage).mpr hAccepts
    exact ⟨_, field, tests, Field.ofName?_eq_some_iff.mpr hName, hOp, hLiteral, hTests, rfl⟩

end PostSieve.Rule
