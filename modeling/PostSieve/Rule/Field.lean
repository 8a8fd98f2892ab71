import PostSieve.Rule.Token

/-! The fields of a post that a rule can test, and what a condition on each may look like. -/

namespace PostSieve.Rule

/-- The fields that conditions name. -/
inductive Field
  | age | created | text | likes | retweets
deriving DecidableEq, Repr

namespace Field

/-- The name of a field in a rule. -/
def name : Field → String
  | age => "age"
  | created => "created"
  | text => "text"
  | likes => "likes"
  | retweets => "retweets"

def all : List Field := [age, created, text, likes, retweets]

/-- The field that a name in a rule means. -/
def ofName? (name : String) : Option Field := all.find? (·.name == name)

/-- The operators that a condition on the field may use. -/
def operators : Field → List TokenKind
  | age | created => [.gt, .ge, .lt, .le]
  | text => [.finds, .lacks]
  | likes | retweets => [.gt, .ge, .lt, .le, .eq, .ne]

/-- The kind of literal that a condition on the field compares with. -/
def literal : Field → TokenKind
  | age => .age
  | created => .date
  | text => .string
  | likes | retweets => .number

end Field

end PostSieve.Rule
