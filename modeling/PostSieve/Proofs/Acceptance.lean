import PostSieve.Proofs.Balance
import PostSieve.Proofs.Conditions
import PostSieve.Proofs.Spelling

/-! Which texts are rules: those whose words the grammar derives, within the limits and with
conditions that mean something. -/

namespace PostSieve.Rule

/-- Whether words are those of a rule: the grammar derives them, each condition among them has a
meaning, and neither limit is exceeded. -/
structure IsRule (options : Options) (words : List Word) : Prop where
  derives : Derives .chain (words.map Word.kind)
  valid : ∀ c ∈ conditionsIn words, c.Valid options.now
  nesting_le : nesting 0 (words.map Word.kind) ≤ options.maxDepth
  count_le : (conditionsIn words).length ≤ options.maxConditions

variable {options : Options} {text : String}

theorem isRule_words_iff {p : Phrase .chain} : IsRule options p.words ↔
    (∀ c ∈ p.conditions, c.Valid options.now) ∧ p.depth ≤ options.maxDepth ∧
      p.conditions.length ≤ options.maxConditions := by
  constructor
  · rintro ⟨-, hValid, hNesting, hCount⟩
    rw [p.conditionsIn_eq] at hValid hCount
    rw [p.nesting_eq] at hNesting
    exact ⟨hValid, hNesting, hCount⟩
  · rintro ⟨hValid, hDepth, hCount⟩
    rw [← p.conditionsIn_eq] at hValid hCount
    rw [← p.nesting_eq] at hDepth
    exact ⟨p.derives, hValid, hDepth, hCount⟩

theorem isLexical_conditions {p : Phrase .chain} (h : wordsOf text = .ok p.words) :
    ∀ c ∈ p.conditions, c.IsLexical :=
  Phrase.isLexical_words_iff.mp (isLexical_of_wordsOf h)

theorem exists_means_iff_valid {p : Phrase .chain} (h : wordsOf text = .ok p.words) :
    (∃ tree, p.Means options.now tree) ↔ ∀ c ∈ p.conditions, c.Valid options.now := by
  rw [Phrase.exists_means_iff]
  exact forall₂_congr fun c hc => Condition.exists_means_iff (isLexical_conditions h c hc)

/-- A rule is what the only phrase of a text yields. -/
theorem read_eq_ok_iff {rule : Rule} :
    Rule.read options text = .ok rule ↔ ∃ p : Phrase .chain, p.Yields options text rule := by
  constructor
  · intro h
    exact (read_sound h).2
  · rintro ⟨p, hp⟩
    obtain ⟨rule', hRead⟩ := read_complete (p.checkParens_eq_ok hp.words_eq) hp.words_eq
      ⟨rule.tree, hp.means⟩ hp.depth_le hp.conditions_le
    obtain ⟨-, p', hp'⟩ := read_sound hRead
    rw [(hp.unique hp').2]
    exact hRead

/-- A phrase within the limits is read from every text that has its words. -/
theorem exists_read_of_words {p : Phrase .chain} (hWords : wordsOf text = .ok p.words)
    (hValid : ∀ c ∈ p.conditions, c.Valid options.now) (hDepth : p.depth ≤ options.maxDepth)
    (hCount : p.conditions.length ≤ options.maxConditions) :
    ∃ rule, Rule.read options text = .ok rule :=
  read_complete (p.checkParens_eq_ok hWords) hWords ((exists_means_iff_valid hWords).mpr hValid)
    hDepth hCount

/-- A text is read as a rule exactly if it is words to its end that are those of a rule; and the
check of the parentheses in front of the reading rejects no such text. -/
theorem exists_read_iff_isRule (options : Options) (text : String) :
    ((∃ rule, Rule.read options text = .ok rule) ↔
      ∃ words, wordsOf text = .ok words ∧ IsRule options words) ∧
    ∀ words, wordsOf text = .ok words → IsRule options words → checkParens text = .ok () := by
  have hPhrase {words : List Word} (hWords : wordsOf text = .ok words)
      (hRule : IsRule options words) : ∃ p : Phrase .chain, p.words = words :=
    hRule.derives.exists_phrase (isLexical_of_wordsOf hWords) rfl
  refine ⟨⟨?_, ?_⟩, ?_⟩
  · rintro ⟨rule, hRead⟩
    obtain ⟨p, hp⟩ := read_eq_ok_iff.mp hRead
    refine ⟨p.words, hp.words_eq, isRule_words_iff.mpr ⟨?_, hp.depth_le, hp.conditions_le⟩⟩
    exact (exists_means_iff_valid hp.words_eq).mp ⟨rule.tree, hp.means⟩
  · rintro ⟨words, hWords, hRule⟩
    obtain ⟨p, rfl⟩ := hPhrase hWords hRule
    obtain ⟨hValid, hDepth, hCount⟩ := isRule_words_iff.mp hRule
    exact exists_read_of_words hWords hValid hDepth hCount
  · intro words hWords hRule
    obtain ⟨p, rfl⟩ := hPhrase hWords hRule
    exact p.checkParens_eq_ok hWords

/-! ### A rule of three conditions, and a condition -/

/-- The phrase of `likes > 3 && (retweets == 5 || likes < 9)`. -/
def Phrase.sample : Phrase .chain :=
  .joined (.condition ⟨"likes", .gt, ⟨.number, "3"⟩, rfl, rfl⟩) .and <| .single <| .group <|
    .joined (.condition ⟨"retweets", .eq, ⟨.number, "5"⟩, rfl, rfl⟩) .or <| .single <|
      .condition ⟨"likes", .lt, ⟨.number, "9"⟩, rfl, rfl⟩

theorem Phrase.sample_spelled : Spelled sample.words
    "likes > 3 && (retweets == 5 || likes < 9)".toList := by
  have hBlank : ∀ c ∈ [' '], isBlank c = true := List.forall_mem_singleton.mpr rfl
  have hNil : ∀ c ∈ ([] : List Char), isBlank c = true := nofun
  exact .cons hNil <| .cons hBlank <| .cons hBlank <| .cons hBlank <| .cons hBlank <|
    .cons hNil <| .cons hBlank <| .cons hBlank <| .cons hBlank <| .cons hBlank <|
    .cons hBlank <| .cons hBlank <| .cons hNil <| .nil hNil

theorem Phrase.wordsOf_sample :
    wordsOf "likes > 3 && (retweets == 5 || likes < 9)" = .ok sample.words := by
  have hLexical : ∀ c ∈ sample.conditions, c.IsLexical := by
    simp [sample, conditions, Condition.IsLexical, Word.IsLexical, TokenKind.Language]
    decide
  exact wordsOf_of_spelled sample_spelled (isLexical_words_iff.mpr hLexical)

theorem exists_read_sample : ∃ rule, Rule.read { now := .epoch }
    "likes > 3 && (retweets == 5 || likes < 9)" = .ok rule := by
  have hValid : ∀ c ∈ Phrase.sample.conditions, c.Valid .epoch := by
    simp only [Phrase.sample, Phrase.conditions, List.cons_append, List.nil_append,
      List.forall_mem_cons]
    refine ⟨⟨.likes, rfl, by decide, rfl, ?_⟩, ⟨.retweets, rfl, by decide, rfl, ?_⟩,
      ⟨.likes, rfl, by decide, rfl, ?_⟩, List.forall_mem_nil _⟩
    · show decimalValue "3".toList < UInt64.size
      decide
    · show decimalValue "5".toList < UInt64.size
      decide
    · show decimalValue "9".toList < UInt64.size
      decide
  exact exists_read_of_words Phrase.wordsOf_sample hValid (by decide) (by decide)

/-- The condition `likes == 1`. -/
def Phrase.sampleCondition : Phrase .operand :=
  .condition ⟨"likes", .eq, ⟨.number, "1"⟩, rfl, rfl⟩

theorem Phrase.exists_means_sampleCondition (now : Calendar.Instant) :
    ∃ tree, sampleCondition.Means now tree :=
  ⟨_, .likes, _, rfl, by decide, rfl, rfl, rfl⟩

end PostSieve.Rule
