import PostSieve.Proofs.Duality

/-! What rules depend on: each condition of a rule tests the field that it names and nothing else of
a post, so a rule does not tell apart two posts that agree on the fields it names. -/

namespace PostSieve.Rule

open Calendar (Instant)

/-- Whether two posts agree on what a condition on the field compares. -/
def Field.Agrees (p q : Post) : Field → Prop
  | age | created => p.createdAt = q.createdAt
  | text => p.text = q.text
  | likes => p.likes = q.likes
  | retweets => p.retweets = q.retweets

theorem Field.agrees_of_eq {p q : Post} (hCreated : p.createdAt = q.createdAt)
    (hText : p.text = q.text) (hLikes : p.likes = q.likes) (hRetweets : p.retweets = q.retweets)
    (field : Field) : field.Agrees p q := by
  cases field <;> assumption

/-! ### The tests of a condition -/

/-- Whether criteria make no tests but those that a field can make. -/
def Criteria.TestsOnly (tests : Criteria) : Field → Prop
  | .age | .created => tests = { before := tests.before, after := tests.after }
  | .text => tests = { matching := tests.matching, containing := tests.containing }
  | .likes => tests = { likes := tests.likes }
  | .retweets => tests = { retweets := tests.retweets }

theorem Criteria.ofBound_eq (isBefore : Prop) [Decidable isBefore] (t : Instant) :
    ofBound isBefore t =
      { before := (ofBound isBefore t).before, after := (ofBound isBefore t).after } := by
  unfold ofBound
  split <;> rfl

/-- The tests that a field's literal comes to are tests of that field. -/
theorem Field.criteria_testsOnly {field : Field} {now : Instant} {op : TokenKind} {value : String}
    {tests : Criteria} (h : field.criteria now op value = .ok tests) : tests.TestsOnly field := by
  cases field with
  | age =>
    obtain ⟨t, -, rfl⟩ := criteria_age.mp h
    exact Criteria.ofBound_eq _ t
  | created =>
    obtain ⟨t, -, rfl⟩ := criteria_created.mp h
    exact Criteria.ofBound_eq _ t
  | text =>
    obtain ⟨pattern, -, rfl⟩ := criteria_text.mp h
    rfl
  | likes =>
    obtain ⟨bound, -, rfl⟩ := criteria_likes.mp h
    rfl
  | retweets =>
    obtain ⟨bound, -, rfl⟩ := criteria_retweets.mp h
    rfl

theorem Criteria.TestsOnly.admits_eq {tests : Criteria} {field : Field} {p q : Post}
    (h : tests.TestsOnly field) (hAgrees : field.Agrees p q) : tests.admits p = tests.admits q := by
  cases field with
  | age | created =>
    have hCreated : p.createdAt = q.createdAt := hAgrees
    rw [h]
    simp [admits, hCreated]
  | text =>
    have hText : p.text = q.text := hAgrees
    rw [h]
    simp [admits, hText]
  | likes =>
    have hLikes : p.likes = q.likes := hAgrees
    rw [h]
    simp [admits, hLikes]
  | retweets =>
    have hRetweets : p.retweets = q.retweets := hAgrees
    rw [h]
    simp [admits, hRetweets]

namespace Tree

/-- Whether each condition of a tree tests only the field that it names. -/
def IsFaithful : Tree → Prop
  | condition field _ tests => tests.TestsOnly field
  | join _ left right => left.IsFaithful ∧ right.IsFaithful

/-- Whether some condition of a tree names a field. -/
def Names (field : Field) : Tree → Prop
  | condition field' _ _ => field' = field
  | join _ left right => left.Names field ∨ right.Names field

/-- The trees of phrases are faithful; others need not be. -/
theorem isFaithful_of_means {level : Level} {p : Phrase level} {now : Instant} {tree : Tree}
    (h : p.Means now tree) : tree.IsFaithful := by
  induction p generalizing tree with
  | condition c =>
    obtain ⟨field, tests, -, -, -, hTests, rfl⟩ := h
    exact Field.criteria_testsOnly hTests
  | group inner ih => exact ih h
  | single operand ih => exact ih h
  | joined first join rest ihFirst ihRest =>
    obtain ⟨left, right, hLeft, hRight, rfl⟩ := h
    exact ⟨ihFirst hLeft, ihRest hRight⟩

/-! ### The fields of a tree -/

theorem mem_leaves_iff {field : Field} {tree : Tree} :
    field ∈ tree.leaves.map Leaf.field ↔ tree.Names field := by
  induction tree with
  | condition field' op tests => rw [leaves, List.map_singleton, List.mem_singleton, Names, eq_comm]
  | join op left right ihLeft ihRight =>
    rw [leaves, List.map_append, List.mem_append, ihLeft, ihRight, Names]

/-- The fields of a tree are those that its conditions name. -/
theorem mem_fields_iff {field : Field} {tree : Tree} : field ∈ tree.fields ↔ tree.Names field := by
  rw [fields_eq_eraseDups, List.mem_eraseDups, mem_leaves_iff]

theorem IsFaithful.admits_eq {tree : Tree} {p q : Post} (h : tree.IsFaithful)
    (hAgrees : ∀ field, tree.Names field → field.Agrees p q) : tree.admits p = tree.admits q := by
  induction tree with
  | condition field op tests =>
    have hTests : tests.TestsOnly field := h
    exact hTests.admits_eq (hAgrees field rfl)
  | join op left right ihLeft ihRight =>
    have hLeft := ihLeft h.1 fun field hField => hAgrees field (Or.inl hField)
    have hRight := ihRight h.2 fun field hField => hAgrees field (Or.inr hField)
    cases op with
    | and => rw [admits, admits, hLeft, hRight]
    | or => rw [admits, admits, hLeft, hRight]

end Tree

/-- A rule admits both or neither of two posts that agree on the fields it names; what no field is
about, it does not look at. -/
theorem read_admits_congr {options : Options} {text : String} {rule : Rule}
    (h : Rule.read options text = .ok rule) :
    (∀ p q : Post, (∀ field ∈ rule.tree.fields, field.Agrees p q) →
      rule.admits p = rule.admits q) ∧
    ∀ (post : Post) (id replies : UInt64) (isRetweet isReply : Bool),
      rule.admits { post with id, replies, isRetweet, isReply } = rule.admits post := by
  obtain ⟨p, hp⟩ := read_eq_ok_iff.mp h
  have hFaithful := Tree.isFaithful_of_means hp.means
  constructor
  · intro p q hAgrees
    apply hFaithful.admits_eq
    intro field hField
    exact hAgrees field (Tree.mem_fields_iff.mpr hField)
  · intro post id replies isRetweet isReply
    apply hFaithful.admits_eq
    intro field _
    exact Field.agrees_of_eq rfl rfl rfl rfl field

theorem read_admits_congr_sample : ∃ rule,
    Rule.read { now := .epoch } "likes > 3 && (retweets == 5 || likes < 9)" = .ok rule ∧
      (∀ p q : Post, (∀ field ∈ rule.tree.fields, field.Agrees p q) →
        rule.admits p = rule.admits q) ∧
      ∀ (post : Post) (id replies : UInt64) (isRetweet isReply : Bool),
        rule.admits { post with id, replies, isRetweet, isReply } = rule.admits post := by
  obtain ⟨rule, hRead⟩ := exists_read_sample
  exact ⟨rule, hRead, read_admits_congr hRead⟩

end PostSieve.Rule
