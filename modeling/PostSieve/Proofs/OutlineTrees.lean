import PostSieve.Proofs.Outlines

/-! Trees and their outlines: the outline of a rule whose patterns stay on one line determines its
tree. Lines are told apart by their breaks, their parts by commas, and the tests of a condition by
the field and the operator in front of them. -/

namespace PostSieve

open Calendar (Instant)

/-! ### Cutting texts -/

/-- There is one way to cut a text at the first occurrence of a character. -/
theorem append_cons_inj {c : Char} {a a' b b' : List Char} (ha : c ∉ a) (ha' : c ∉ a')
    (h : a ++ c :: b = a' ++ c :: b') : a = a' ∧ b = b' := by
  have hFront {a b : List Char} (ha : c ∉ a) : (a ++ c :: b).takeWhile (· != c) = a := by
    apply Rule.takeWhile_run
    · intro x hx
      exact bne_iff_ne.mpr (ne_of_mem_of_not_mem hx ha)
    · exact bne_self_eq_false c
  have hEq : a = a' := by
    rw [← hFront (b := b) ha, h, hFront ha']
  subst hEq
  exact ⟨rfl, (List.cons.inj (List.append_cancel_left h)).2⟩

/-- There is one way to cut a text into lines. -/
theorem lines_eq_of_join_eq {lines lines' : List String}
    (hLines : ∀ line ∈ lines, '\n' ∉ line.toList) (hLines' : ∀ line ∈ lines', '\n' ∉ line.toList)
    (h : String.join (lines.map (· ++ "\n")) = String.join (lines'.map (· ++ "\n"))) :
    lines = lines' := by
  have hCons (line : String) (lines : List String) :
      (String.join ((line :: lines).map (· ++ "\n"))).toList =
        line.toList ++ '\n' :: (String.join (lines.map (· ++ "\n"))).toList := by
    rw [List.map_cons, String.join_cons, String.toList_append, String.toList_append,
      List.append_assoc]
    rfl
  have hNe (line : String) (lines : List String) :
      String.join ((line :: lines).map (· ++ "\n")) ≠ "" := by
    intro hEq
    have hText := hCons line lines
    rw [hEq] at hText
    exact List.append_ne_nil_of_right_ne_nil _ (List.cons_ne_nil _ _) hText.symm
  induction lines generalizing lines' with
  | nil =>
    cases lines' with
    | nil => rfl
    | cons line' lines' => exact absurd h.symm (hNe line' lines')
  | cons line lines ih =>
    cases lines' with
    | nil => exact absurd h (hNe line lines)
    | cons line' lines' =>
      have hText := congrArg String.toList h
      rw [hCons, hCons] at hText
      rw [List.forall_mem_cons] at hLines hLines'
      obtain ⟨hLine, hRest⟩ := append_cons_inj hLines.1 hLines'.1 hText
      rw [String.toList_injective hLine,
        ih hLines.2 hLines'.2 (String.toList_injective hRest)]

/-- Timestamps tell instants apart, to the nanosecond and in leap seconds. -/
theorem Calendar.Instant.text_injective {t t' : Instant} (h : t.text = t'.text) : t = t' := by
  have hRead := t.readTimestamp?_text
  rw [h, t'.readTimestamp?_text] at hRead
  exact (Option.some.inj hRead).symm

namespace Rule

/-! ### The tests of a condition -/

/-- Whether tests are those that a condition on a field makes by an operator, whatever its literal:
a single one, and for times in the direction that the operator gives. -/
def Field.Makes (op : TokenKind) (tests : Criteria) : Field → Prop
  | age => ∃ t, tests = .ofBound (op = .gt ∨ op = .ge) t
  | created => ∃ t, tests = .ofBound (op = .lt ∨ op = .le) t
  | text => ∃ pattern, tests = { matching := some ⟨pattern, op == .lacks⟩ }
  | likes => ∃ bound : CountBound, op = bound.comparator.token ∧ tests = { likes := some bound }
  | retweets =>
    ∃ bound : CountBound, op = bound.comparator.token ∧ tests = { retweets := some bound }

theorem Field.makes_of_criteria {field : Field} {now : Instant} {op : TokenKind} {value : String}
    {tests : Criteria} (h : field.criteria now op value = .ok tests) : field.Makes op tests := by
  cases field with
  | age =>
    obtain ⟨t, -, rfl⟩ := criteria_age.mp h
    exact ⟨t, rfl⟩
  | created =>
    obtain ⟨t, -, rfl⟩ := criteria_created.mp h
    exact ⟨t, rfl⟩
  | text =>
    obtain ⟨pattern, -, rfl⟩ := criteria_text.mp h
    exact ⟨pattern, rfl⟩
  | likes =>
    obtain ⟨bound, hBound, rfl⟩ := criteria_likes.mp h
    exact ⟨bound, Comparator.ofToken?_eq_some_iff.mp (countBound_eq_ok_iff.mp hBound).2, rfl⟩
  | retweets =>
    obtain ⟨bound, hBound, rfl⟩ := criteria_retweets.mp h
    exact ⟨bound, Comparator.ofToken?_eq_some_iff.mp (countBound_eq_ok_iff.mp hBound).2, rfl⟩

theorem Criteria.text_ofBound (isBefore : Prop) [Decidable isBefore] (t : Instant) :
    (ofBound isBefore t).text = (if isBefore then "created < " else "created > ") ++ t.text := by
  unfold ofBound
  split <;> rfl

theorem Criteria.ofBound_eq_of_text {isBefore : Prop} [Decidable isBefore] {t t' : Instant}
    (h : (ofBound isBefore t).text = (ofBound isBefore t').text) :
    ofBound isBefore t = ofBound isBefore t' := by
  have hText := congrArg String.toList h
  simp only [text_ofBound, String.toList_append, List.append_right_inj] at hText
  rw [Instant.text_injective (String.toList_injective hText)]

theorem TextTest.eq_of_text {test test' : TextTest} (h : test.text = test'.text)
    (hInverted : test.inverted = test'.inverted) : test = test' := by
  obtain ⟨pattern, inverted⟩ := test
  obtain ⟨pattern', inverted'⟩ := test'
  obtain rfl : inverted = inverted' := hInverted
  have hText := congrArg String.toList h
  simp only [text, String.toList_append, List.append_right_inj, List.append_left_inj] at hText
  rw [Pattern.eq_of_source (String.toList_injective hText)]

theorem CountBound.eq_of_text {label : String} {bound bound' : CountBound}
    (hComparator : bound.comparator = bound'.comparator)
    (h : label ++ bound.comparator.text ++ " " ++ toString bound.threshold.toNat =
      label ++ bound'.comparator.text ++ " " ++ toString bound'.threshold.toNat) :
    bound = bound' := by
  obtain ⟨comparator, threshold⟩ := bound
  obtain ⟨comparator', threshold'⟩ := bound'
  obtain rfl : comparator = comparator' := hComparator
  have hText := congrArg String.toList h
  simp only [String.toList_append, List.append_right_inj] at hText
  have hValue := congrArg decimalValue hText
  rw [decimalValue_toString, decimalValue_toString] at hValue
  rw [UInt64.toNat_inj.mp hValue]

theorem Comparator.token_injective {c c' : Comparator} (h : c.token = c'.token) : c = c' := by
  have hToken := c.ofToken?_token
  rw [h, c'.ofToken?_token] at hToken
  exact (Option.some.inj hToken).symm

/-- Behind a field and an operator, the text of the tests determines them. -/
theorem Field.Makes.eq_of_text {field : Field} {op : TokenKind} {tests tests' : Criteria}
    (h : field.Makes op tests) (h' : field.Makes op tests') (hText : tests.text = tests'.text) :
    tests = tests' := by
  cases field with
  | age =>
    obtain ⟨t, rfl⟩ := h
    obtain ⟨t', rfl⟩ := h'
    exact Criteria.ofBound_eq_of_text hText
  | created =>
    obtain ⟨t, rfl⟩ := h
    obtain ⟨t', rfl⟩ := h'
    exact Criteria.ofBound_eq_of_text hText
  | text =>
    obtain ⟨pattern, rfl⟩ := h
    obtain ⟨pattern', rfl⟩ := h'
    have hTest : TextTest.text ⟨pattern, op == .lacks⟩ = TextTest.text ⟨pattern', op == .lacks⟩ :=
      hText
    rw [TextTest.eq_of_text hTest rfl]
  | likes =>
    obtain ⟨bound, rfl, rfl⟩ := h
    obtain ⟨bound', hToken, rfl⟩ := h'
    rw [CountBound.eq_of_text (Comparator.token_injective hToken) hText]
  | retweets =>
    obtain ⟨bound, rfl, rfl⟩ := h
    obtain ⟨bound', hToken, rfl⟩ := h'
    rw [CountBound.eq_of_text (Comparator.token_injective hToken) hText]

/-! ### The lines of nodes -/

namespace Tree

/-- Whether each condition of a tree makes a test that suits its field and its operator. -/
def IsMade : Tree → Prop
  | condition field op tests => field.Makes op tests
  | join _ left right => left.IsMade ∧ right.IsMade

theorem isMade_of_means {level : Level} {p : Phrase level} {now : Instant} {tree : Tree}
    (h : p.Means now tree) : tree.IsMade := by
  induction p generalizing tree with
  | condition c =>
    obtain ⟨field, tests, -, -, -, hTests, rfl⟩ := h
    exact Field.makes_of_criteria hTests
  | group inner ih => exact ih h
  | single operand ih => exact ih h
  | joined first join rest ihFirst ihRest =>
    obtain ⟨left, right, hLeft, hRight, rfl⟩ := h
    exact ⟨ihFirst hLeft, ihRest hRight⟩

variable {field field' : Field} {op op' : TokenKind} {tests tests' : Criteria}

/-- The label of a condition, with the commas at which it is cut. -/
theorem toList_label_condition (field : Field) (op : TokenKind) (tests : Criteria) :
    (condition field op tests).label.toList =
      ", kind: condition, field: ".toList ++ (field.name.toList ++ ',' ::
        (" op: ".toList ++ (op.text.toList ++ ',' ::
          (" children: 0, rule: ".toList ++ tests.text.toList)))) := by
  unfold label
  simp only [String.toList_append, List.append_assoc]
  rfl

theorem comma_not_mem_name (field : Field) : ',' ∉ field.name.toList := by
  cases field <;> decide

theorem comma_not_mem_text (kind : TokenKind) : ',' ∉ kind.text.toList := by
  cases kind <;> decide

theorem label_condition_inj
    (h : (condition field op tests).label = (condition field' op' tests').label) :
    field = field' ∧ op = op' ∧ tests.text = tests'.text := by
  have hText := congrArg String.toList h
  rw [toList_label_condition, toList_label_condition, List.append_right_inj] at hText
  obtain ⟨hField, hText⟩ :=
    append_cons_inj (comma_not_mem_name field) (comma_not_mem_name field') hText
  rw [List.append_right_inj] at hText
  obtain ⟨hOp, hText⟩ := append_cons_inj (comma_not_mem_text op) (comma_not_mem_text op') hText
  rw [List.append_right_inj] at hText
  exact ⟨Field.name_injective (String.toList_injective hField),
    TokenKind.text_injective (String.toList_injective hOp), String.toList_injective hText⟩

theorem label_join_inj {op op' : Join} {left right left' right' : Tree}
    (h : (join op left right).label = (join op' left' right').label) : op = op' := by
  have hText := congrArg String.toList h
  unfold label at hText
  simp only [String.toList_append, List.append_right_inj, List.append_left_inj] at hText
  cases op <;> cases op' <;> first | rfl | exact absurd hText (by decide)

/-- The label of a join, which differs from that of a condition in its kind. -/
theorem toList_label_join (op : Join) (left right : Tree) : (join op left right).label.toList =
    ", kind: logical, op: ".toList ++ (op.text.toList ++ ", children: 2".toList) := by
  unfold label
  simp only [String.toList_append, List.append_assoc]

theorem label_condition_ne_join {op' : Join} {left right : Tree} :
    (condition field op tests).label ≠ (join op' left right).label := by
  intro h
  have hText := congrArg (fun text => text.toList.take 9) h
  rw [toList_label_condition, toList_label_join, List.take_append_of_le_length (by decide),
    List.take_append_of_le_length (by decide)] at hText
  exact absurd hText (by decide)

theorem exists_label_eq (tree : Tree) : ∃ rest, tree.label.toList = ',' :: rest := by
  cases tree with
  | condition field op tests =>
    rw [toList_label_condition]
    exact ⟨_, rfl⟩
  | join op left right =>
    rw [toList_label_join]
    exact ⟨_, rfl⟩

/-- The text for a node begins with its depth, up to the first comma. -/
theorem description_inj {depth depth' : Nat} {tree tree' : Tree}
    (h : tree.description depth = tree'.description depth') :
    depth = depth' ∧ tree.label = tree'.label := by
  have hComma (n : Nat) : ',' ∉ (toString n).toList := by
    intro hMem
    exact absurd (isDigit_of_mem_toString hMem) (by decide)
  have hText := congrArg String.toList h
  simp only [description, String.toList_append, List.append_assoc] at hText
  have hDepth := List.append_cancel_left hText
  obtain ⟨rest, hLabel⟩ := tree.exists_label_eq
  obtain ⟨rest', hLabel'⟩ := tree'.exists_label_eq
  rw [hLabel, hLabel'] at hDepth
  obtain ⟨hNumber, hRest⟩ := append_cons_inj (hComma depth) (hComma depth') hDepth
  constructor
  · have hValue := congrArg decimalValue hNumber
    rwa [decimalValue_toString, decimalValue_toString] at hValue
  · apply String.toList_injective
    rw [hLabel, hLabel', hRest]

/-- The texts for the nodes of a tree, with any others behind them, determine the tree. -/
theorem descriptions_append_inj {tree tree' : Tree} {depth depth' : Nat}
    {others others' : List String} (hMade : tree.IsMade) (hMade' : tree'.IsMade)
    (h : tree.descriptions depth ++ others = tree'.descriptions depth' ++ others') :
    tree = tree' ∧ others = others' := by
  induction tree generalizing tree' depth depth' others others' with
  | condition field op tests =>
    cases tree' with
    | condition field' op' tests' =>
      obtain ⟨hLine, hOthers⟩ := List.cons.inj h
      obtain ⟨rfl, rfl, hText⟩ := label_condition_inj (description_inj hLine).2
      rw [Field.Makes.eq_of_text hMade hMade' hText]
      exact ⟨rfl, hOthers⟩
    | join op' left' right' =>
      rw [descriptions_join] at h
      exact absurd (description_inj (List.cons.inj h).1).2 label_condition_ne_join
  | join op left right ihLeft ihRight =>
    rw [descriptions_join] at h
    cases tree' with
    | condition field' op' tests' =>
      exact absurd (description_inj (List.cons.inj h).1).2.symm label_condition_ne_join
    | join op' left' right' =>
      rw [descriptions_join, List.cons_append, List.cons_append, List.append_assoc,
        List.append_assoc] at h
      obtain ⟨hLine, hRest⟩ := List.cons.inj h
      obtain rfl := label_join_inj (description_inj hLine).2
      obtain ⟨rfl, hRight⟩ := ihLeft hMade.1 hMade'.1 hRest
      obtain ⟨rfl, hOthers⟩ := ihRight hMade.2 hMade'.2 hRight
      exact ⟨rfl, hOthers⟩

/-- An outline without line breaks in its patterns determines the tree. -/
theorem eq_of_outline_eq {tree tree' : Tree} (hMade : tree.IsMade) (hMade' : tree'.IsMade)
    (hBreaks : patternBreaks tree.patterns = 0) (hBreaks' : patternBreaks tree'.patterns = 0)
    (h : tree.outline = tree'.outline) : tree = tree' := by
  have hLines := tree.lists_descriptions.forall_not_mem_iff.mpr hBreaks
  have hLines' := tree'.lists_descriptions.forall_not_mem_iff.mpr hBreaks'
  rw [outline_eq_descriptions, outline_eq_descriptions] at h
  have hDescriptions := lines_eq_of_join_eq hLines hLines' h
  have hAppend : tree.descriptions 0 ++ [] = tree'.descriptions 0 ++ [] := by
    rw [hDescriptions]
  exact (descriptions_append_inj hMade hMade' hAppend).1

end Tree

/-- Rules without line breaks in their patterns that have the same outline have the same tree, and
so match the same posts, however their texts differ and whenever they were read. -/
theorem tree_eq_of_outline_eq {options options' : Options} {text text' : String}
    {rule rule' : Rule} (h : Rule.read options text = .ok rule)
    (h' : Rule.read options' text' = .ok rule')
    (hBreaks : ∀ pattern ∈ rule.tree.patterns, '\n' ∉ pattern.source.toList)
    (hBreaks' : ∀ pattern ∈ rule'.tree.patterns, '\n' ∉ pattern.source.toList)
    (hOutline : rule.tree.outline = rule'.tree.outline) :
    rule.tree = rule'.tree ∧ ∀ post, rule.admits post = rule'.admits post := by
  obtain ⟨p, hp⟩ := read_eq_ok_iff.mp h
  obtain ⟨p', hp'⟩ := read_eq_ok_iff.mp h'
  have hTree : rule.tree = rule'.tree := by
    apply Tree.eq_of_outline_eq (Tree.isMade_of_means hp.means) (Tree.isMade_of_means hp'.means)
    · exact patternBreaks_eq_zero_iff.mpr hBreaks
    · exact patternBreaks_eq_zero_iff.mpr hBreaks'
    · exact hOutline
  refine ⟨hTree, fun post => ?_⟩
  rw [Rule.admits, Rule.admits, hTree]

/-- Blanks, the instant and the limits leave no trace in the outline of a condition on the text. -/
theorem tree_eq_of_outline_eq_spaces : ∃ rule rule',
    Rule.read { now := .epoch } "text ~ \"a, b/\"" = .ok rule ∧
      Rule.read { now := .ofSecond 60 (by decide) (by decide), maxDepth := 0 }
        "text~\"a, b/\"" = .ok rule' ∧
      rule.tree.outline = rule'.tree.outline ∧ rule.tree = rule'.tree ∧
      ∀ post, rule.admits post = rule'.admits post := by
  let options : Options := { now := .epoch }
  let options' : Options := { now := .ofSecond 60 (by decide) (by decide), maxDepth := 0 }
  have hOp : TokenKind.finds ∈ Field.text.operators := by decide
  have hLiteral : TokenKind.string.Language "\"a, b/\"".toList :=
    ⟨['a', ',', ' ', 'b', '/'], by decide, rfl⟩
  obtain ⟨pattern, hPattern⟩ : ∃ pattern, Pattern.read? "a, b/" = some pattern :=
    exists_pattern_of_isSome (by decide +kernel)
  have hAccepts (now : Instant) : Field.text.Accepts now "\"a, b/\"" :=
    ⟨"a, b/", pattern, rfl, hPattern⟩
  have hWords := wordsOf_conditionText hOp hLiteral
  have hWords' := wordsOf_unspaced hOp hLiteral
  obtain ⟨rule, hRead⟩ : ∃ rule, Rule.read options "text ~ \"a, b/\"" = .ok rule :=
    exists_read_ofField hWords (by decide) (hAccepts _)
  obtain ⟨rule', hRead'⟩ : ∃ rule, Rule.read options' "text~\"a, b/\"" = .ok rule :=
    exists_read_ofField hWords' (by decide) (hAccepts _)
  obtain ⟨tests, hTests, hTree⟩ := tree_of_wordsOf_ofField hWords hRead
  obtain ⟨tests', hTests', hTree'⟩ := tree_of_wordsOf_ofField hWords' hRead'
  -- The test of a text does not depend on the instant.
  obtain rfl : tests = tests' := Except.ok.inj (hTests.symm.trans hTests')
  have hBreaks : ∀ pattern ∈ (Tree.condition .text .finds tests).patterns,
      '\n' ∉ pattern.source.toList := by
    obtain ⟨pattern', hPattern', rfl⟩ := Field.criteria_text.mp hTests
    show ∀ pattern ∈ [pattern'], '\n' ∉ pattern.source.toList
    rw [List.forall_mem_singleton, source_of_read hPattern']
    decide +kernel
  have hOutline : rule.tree.outline = rule'.tree.outline := by rw [hTree, hTree']
  exact ⟨rule, rule', hRead, hRead', hOutline,
    tree_eq_of_outline_eq hRead hRead' (hTree ▸ hBreaks) (hTree' ▸ hBreaks) hOutline⟩

end Rule

end PostSieve
