import PostSieve.Proofs.AgeTexts
import PostSieve.Proofs.Evaluation

/-! Rules of one condition: the text that writes a condition on a field is a rule exactly if the
field accepts the literal, and it matches the posts that compare with the literal as written. -/

namespace PostSieve.Rule

open Calendar (Instant Age readDate readDate_eq_ok_iff)

namespace Field

theorem isOperator_of_mem {field : Field} {op : TokenKind} (h : op ∈ field.operators) :
    op.isOperator = true := by
  cases field <;> cases op <;> first | rfl | exact absurd h (by decide)

theorem isLiteral_literal (field : Field) : field.literal.isLiteral = true := by
  cases field <;> rfl

theorem language_name (field : Field) : TokenKind.name.Language field.name.toList := by
  have hLetters : field.name.toList.all isNameChar = true := by cases field <;> decide
  exact ⟨by cases field <;> decide, List.all_eq_true.mp hLetters⟩

/-- The text of a condition on a field, such as `age > 3m`. -/
def conditionText (field : Field) (op : TokenKind) (literal : String) : String :=
  field.name ++ " " ++ op.text ++ " " ++ literal

end Field

variable {field : Field} {op : TokenKind} {literal : String} {options : Options}

/-- The condition that compares a field with a literal of its kind. -/
def Condition.ofField (field : Field) (hOp : op ∈ field.operators) (literal : String) :
    Condition :=
  ⟨field.name, op, ⟨field.literal, literal⟩, field.isOperator_of_mem hOp, field.isLiteral_literal⟩

/-- That condition as a whole rule. -/
def Phrase.ofField (field : Field) (hOp : op ∈ field.operators) (literal : String) :
    Phrase .chain :=
  .single (.condition (.ofField field hOp literal))

theorem Phrase.spelled_ofField (hOp : op ∈ field.operators) :
    Spelled (ofField field hOp literal).words (field.conditionText op literal).toList := by
  have hBlank : ∀ c ∈ [' '], isBlank c = true := List.forall_mem_singleton.mpr rfl
  have hNil : ∀ c ∈ ([] : List Char), isBlank c = true := nofun
  have hText : (field.conditionText op literal).toList = [] ++ (field.name.toList ++ ([' '] ++
      (op.text.toList ++ ([' '] ++ (literal.toList ++ []))))) := by
    simp [Field.conditionText]
  rw [hText]
  exact .cons hNil <| .cons hBlank <| .cons hBlank <| .nil hNil

theorem Condition.valid_ofField_iff (hOp : op ∈ field.operators) {now : Instant} :
    (ofField field hOp literal).Valid now ↔ field.Accepts now literal := by
  constructor
  · rintro ⟨field', hName, -, -, hAccepts⟩
    obtain rfl := Field.name_injective hName
    exact hAccepts
  · exact fun hAccepts => ⟨field, rfl, hOp, rfl, hAccepts⟩

theorem Condition.holds_ofField_iff (hOp : op ∈ field.operators) {now : Instant}
    {post : Post} :
    (ofField field hOp literal).Holds now post ↔ field.Holds now op literal post := by
  constructor
  · rintro ⟨field', hName, hHolds⟩
    obtain rfl := Field.name_injective hName
    exact hHolds
  · exact fun hHolds => ⟨field, rfl, hHolds⟩

/-! ### Conditions on times -/

section Times

variable {now t : Instant} {post : Post}

theorem Field.holds_age_iff (h : Age.instantBefore literal now = .ok t) :
    age.Holds now op literal post ↔ (op = .gt ∨ op = .ge) ∧ post.createdAt < t ∨
      (op = .lt ∨ op = .le) ∧ t < post.createdAt := by
  constructor
  · rintro ⟨t', ht', hPost⟩
    cases h.symm.trans ht'
    exact hPost
  · exact fun hPost => ⟨t, h, hPost⟩

theorem Field.holds_created_iff (hLiteral : TokenKind.date.Language literal.toList)
    (h : readDate literal = .ok t) : created.Holds now op literal post ↔
      (op = .lt ∨ op = .le) ∧ post.createdAt < t ∨
        (op = .gt ∨ op = .ge) ∧ t < post.createdAt := by
  constructor
  · rintro ⟨d, t', hNames, hMidnight, hPost⟩
    cases h.symm.trans ((readDate_eq_ok_iff hLiteral).mpr ⟨d, hNames, hMidnight⟩)
    exact hPost
  · obtain ⟨d, hNames, hMidnight⟩ := (readDate_eq_ok_iff hLiteral).mp h
    exact fun hPost => ⟨d, t, hNames, hMidnight, hPost⟩

end Times

/-! ### Reading a condition -/

theorem wordsOf_ofField {text : String} {hOp : op ∈ field.operators}
    (h : Spelled (Phrase.ofField field hOp literal).words text.toList)
    (hLiteral : field.literal.Language literal.toList) :
    wordsOf text = .ok (Phrase.ofField field hOp literal).words := by
  apply Phrase.wordsOf_of_spelled h
  rw [Phrase.isLexical_words_iff]
  intro c hc
  rw [List.mem_singleton.mp hc]
  exact ⟨field.language_name, hLiteral⟩

theorem wordsOf_conditionText (hOp : op ∈ field.operators)
    (hLiteral : field.literal.Language literal.toList) :
    wordsOf (field.conditionText op literal) =
      .ok (Phrase.ofField field hOp literal).words :=
  wordsOf_ofField (Phrase.spelled_ofField hOp) hLiteral

/-- A condition that is written without blanks has the same words. -/
theorem wordsOf_unspaced (hOp : op ∈ field.operators)
    (hLiteral : field.literal.Language literal.toList) :
    wordsOf (field.name ++ op.text ++ literal) =
      .ok (Phrase.ofField field hOp literal).words := by
  have hNil : ∀ c ∈ ([] : List Char), isBlank c = true := nofun
  have hText : (field.name ++ op.text ++ literal).toList = [] ++ (field.name.toList ++ ([] ++
      (op.text.toList ++ ([] ++ (literal.toList ++ []))))) := by
    simp
  apply wordsOf_ofField _ hLiteral
  rw [hText]
  exact .cons hNil <| .cons hNil <| .cons hNil <| .nil hNil

theorem exists_read_ofField {text : String} {hOp : op ∈ field.operators}
    (hWords : wordsOf text = .ok (Phrase.ofField field hOp literal).words)
    (hCount : 0 < options.maxConditions) (hAccepts : field.Accepts options.now literal) :
    ∃ rule, Rule.read options text = .ok rule := by
  refine exists_read_of_words hWords (fun c hc => ?_) (Nat.zero_le _) hCount
  rw [List.mem_singleton.mp hc]
  exact (Condition.valid_ofField_iff hOp).mpr hAccepts

/-- A condition is read as a rule if its field accepts the literal, unless no condition may be. -/
theorem exists_read_conditionText (hOp : op ∈ field.operators)
    (hLiteral : field.literal.Language literal.toList) (hCount : 0 < options.maxConditions)
    (hAccepts : field.Accepts options.now literal) :
    ∃ rule, Rule.read options (field.conditionText op literal) = .ok rule :=
  exists_read_ofField (wordsOf_conditionText hOp hLiteral) hCount hAccepts

/-- The tree of a condition that is a whole rule. -/
theorem tree_of_wordsOf_ofField {text : String} {rule : Rule} {hOp : op ∈ field.operators}
    (hWords : wordsOf text = .ok (Phrase.ofField field hOp literal).words)
    (h : Rule.read options text = .ok rule) :
    ∃ tests, field.criteria options.now op literal = .ok tests ∧
      rule.tree = .condition field op tests := by
  obtain ⟨p, hp⟩ := read_eq_ok_iff.mp h
  obtain rfl : p = .ofField field hOp literal :=
    Phrase.words_injective (Except.ok.inj (hp.words_eq.symm.trans hWords))
  obtain ⟨field', tests, hName, -, -, hTests, hTree⟩ := hp.means
  obtain rfl : field = field' := Field.name_injective (Field.ofName?_eq_some_iff.mp hName)
  exact ⟨tests, hTests, hTree⟩

/-- What is read from a condition matches the posts for which the condition holds. -/
theorem read_conditionText (hOp : op ∈ field.operators)
    (hLiteral : field.literal.Language literal.toList) {rule : Rule}
    (h : Rule.read options (field.conditionText op literal) = .ok rule) :
    0 < options.maxConditions ∧ field.Accepts options.now literal ∧
      ∀ post, rule.admits post = true ↔ field.Holds options.now op literal post := by
  have hWords := wordsOf_conditionText hOp hLiteral
  obtain ⟨p, hp⟩ := read_eq_ok_iff.mp h
  obtain rfl : p = .ofField field hOp literal :=
    Phrase.words_injective (Except.ok.inj (hp.words_eq.symm.trans hWords))
  have hValid := (exists_means_iff_valid hWords).mp ⟨rule.tree, hp.means⟩ _
    (List.mem_singleton_self _)
  refine ⟨hp.conditions_le, (Condition.valid_ofField_iff hOp).mp hValid, fun post => ?_⟩
  rw [Rule.admits, Phrase.admits_iff_holds (isLexical_conditions hWords) hp.means post]
  exact Condition.holds_ofField_iff hOp

/-! ### Reading a condition on a time -/

section ReadingTimes

variable {t : Instant}

/-- A condition on the age is read if the age can be counted back, and then compares with the
instant that it leads to. -/
theorem exists_read_age (hOp : op ∈ Field.age.operators) (hCount : 0 < options.maxConditions)
    (h : Age.instantBefore literal options.now = .ok t) :
    ∃ rule, Rule.read options (Field.age.conditionText op literal) = .ok rule ∧
      ∀ post, rule.admits post = true ↔ (op = .gt ∨ op = .ge) ∧ post.createdAt < t ∨
        (op = .lt ∨ op = .le) ∧ t < post.createdAt := by
  obtain ⟨age, hAge, -⟩ := bind_eq_ok_iff.mp h
  have hLiteral := Age.language_of_read hAge
  obtain ⟨rule, hRead⟩ : ∃ rule,
      Rule.read options (Field.age.conditionText op literal) = .ok rule :=
    exists_read_conditionText hOp hLiteral hCount ⟨t, h⟩
  obtain ⟨-, -, hAdmits⟩ := read_conditionText hOp hLiteral hRead
  exact ⟨rule, hRead, fun post => (hAdmits post).trans (Field.holds_age_iff h)⟩

theorem exists_read_agedOver (hOp : op ∈ [TokenKind.gt, .ge])
    (hCount : 0 < options.maxConditions) (h : Age.instantBefore literal options.now = .ok t) :
    ∃ rule, Rule.read options (Field.age.conditionText op literal) = .ok rule ∧
      ∀ post, rule.admits post = true ↔ post.createdAt < t := by
  have hField : op ∈ Field.age.operators :=
    List.mem_append_left [TokenKind.lt, TokenKind.le] hOp
  obtain ⟨rule, hRead, hAdmits⟩ := exists_read_age hField hCount h
  refine ⟨rule, hRead, fun post => (hAdmits post).trans ?_⟩
  rcases List.mem_pair.mp hOp with rfl | rfl <;> simp

theorem exists_read_agedUnder (hOp : op ∈ [TokenKind.lt, .le])
    (hCount : 0 < options.maxConditions) (h : Age.instantBefore literal options.now = .ok t) :
    ∃ rule, Rule.read options (Field.age.conditionText op literal) = .ok rule ∧
      ∀ post, rule.admits post = true ↔ t < post.createdAt := by
  have hField : op ∈ Field.age.operators :=
    List.mem_append_right [TokenKind.gt, TokenKind.ge] hOp
  obtain ⟨rule, hRead, hAdmits⟩ := exists_read_age hField hCount h
  refine ⟨rule, hRead, fun post => (hAdmits post).trans ?_⟩
  rcases List.mem_pair.mp hOp with rfl | rfl <;> simp

/-- A condition on the day of creation is read if the day is, and then compares with its
midnight. -/
theorem exists_read_created (hOp : op ∈ Field.created.operators)
    (hLiteral : TokenKind.date.Language literal.toList) (hCount : 0 < options.maxConditions)
    (h : readDate literal = .ok t) :
    ∃ rule, Rule.read options (Field.created.conditionText op literal) = .ok rule ∧
      ∀ post, rule.admits post = true ↔ (op = .lt ∨ op = .le) ∧ post.createdAt < t ∨
        (op = .gt ∨ op = .ge) ∧ t < post.createdAt := by
  obtain ⟨d, hNames, -⟩ := (readDate_eq_ok_iff hLiteral).mp h
  obtain ⟨rule, hRead⟩ : ∃ rule,
      Rule.read options (Field.created.conditionText op literal) = .ok rule :=
    exists_read_conditionText hOp hLiteral hCount ⟨d, hNames⟩
  obtain ⟨-, -, hAdmits⟩ := read_conditionText hOp hLiteral hRead
  exact ⟨rule, hRead, fun post => (hAdmits post).trans (Field.holds_created_iff hLiteral h)⟩

theorem exists_read_createdBefore (hOp : op ∈ [TokenKind.lt, .le])
    (hLiteral : TokenKind.date.Language literal.toList) (hCount : 0 < options.maxConditions)
    (h : readDate literal = .ok t) :
    ∃ rule, Rule.read options (Field.created.conditionText op literal) = .ok rule ∧
      ∀ post, rule.admits post = true ↔ post.createdAt < t := by
  have hField : op ∈ Field.created.operators :=
    List.mem_append_right [TokenKind.gt, TokenKind.ge] hOp
  obtain ⟨rule, hRead, hAdmits⟩ := exists_read_created hField hLiteral hCount h
  refine ⟨rule, hRead, fun post => (hAdmits post).trans ?_⟩
  rcases List.mem_pair.mp hOp with rfl | rfl <;> simp

theorem exists_read_createdAfter (hOp : op ∈ [TokenKind.gt, .ge])
    (hLiteral : TokenKind.date.Language literal.toList) (hCount : 0 < options.maxConditions)
    (h : readDate literal = .ok t) :
    ∃ rule, Rule.read options (Field.created.conditionText op literal) = .ok rule ∧
      ∀ post, rule.admits post = true ↔ t < post.createdAt := by
  have hField : op ∈ Field.created.operators :=
    List.mem_append_left [TokenKind.lt, TokenKind.le] hOp
  obtain ⟨rule, hRead, hAdmits⟩ := exists_read_created hField hLiteral hCount h
  refine ⟨rule, hRead, fun post => (hAdmits post).trans ?_⟩
  rcases List.mem_pair.mp hOp with rfl | rfl <;> simp

end ReadingTimes

end PostSieve.Rule
