import PostSieve.Rule.Criteria
import PostSieve.Rule.Field

/-! Rules as trees of conditions: evaluating one against a post, and walking through its nodes. -/

namespace PostSieve

namespace Rule

/-- The ways to join two parts of a rule. -/
inductive Join
  | and | or
deriving DecidableEq, Repr

namespace Join

/-- The join that a token stands for. -/
def ofToken? : TokenKind → Option Join
  | .and => some and
  | .or => some or
  | _ => none

def text : Join → String
  | and => "AND"
  | or => "OR"

/-- The join of two truth values. -/
def apply : Join → Bool → Bool → Bool
  | and, a, b => a && b
  | or, a, b => a || b

end Join

/-- Conditions and their joins. A condition keeps the field and the operator it was written with. -/
inductive Tree
  | condition (field : Field) (op : TokenKind) (criteria : Criteria)
  | join (op : Join) (left right : Tree)
deriving DecidableEq

namespace Tree

/-- Whether a post matches the rule. -/
def admits (post : Post) : Tree → Bool
  | condition _ _ criteria => criteria.admits post
  | join .and left right => left.admits post && right.admits post
  | join .or left right => left.admits post || right.admits post

/-- The number of nodes on the longest way down. -/
def height : Tree → Nat
  | condition .. => 1
  | join _ left right => 1 + max left.height right.height

/-- The nodes with their depths, each in front of those below it and left before right. -/
def walk (depth : Nat) : Tree → List (Nat × Tree)
  | condition field op criteria => [(depth, condition field op criteria)]
  | join op left right =>
    (depth, join op left right) :: (left.walk (depth + 1) ++ right.walk (depth + 1))

/-- The field that a node tests, if it is a condition. -/
def field? : Tree → Option Field
  | condition field _ _ => some field
  | join .. => none

/-- The join of a node, if it is one. -/
def join? : Tree → Option Join
  | condition .. => none
  | join op _ _ => some op

/-- The fields that are tested anywhere, in the order of their first conditions. -/
def fields (tree : Tree) : List Field :=
  (tree.walk 0).foldl (fun seen (_, node) =>
    match node.field? with
    | some field => if field ∈ seen then seen else seen ++ [field]
    | none => seen) []

def conditionCount (tree : Tree) : Nat := (tree.walk 0).countP (·.2.field?.isSome)

/-- The joins with their depths, in the order of the walk. -/
def joins (tree : Tree) : List (Join × Nat) :=
  (tree.walk 0).filterMap fun (depth, node) => node.join?.map (·, depth)

def joinCount (tree : Tree) : Nat := (tree.walk 0).countP (·.2.join?.isSome)

/-- The line that describes a node. -/
def line (depth : Nat) : Tree → String
  | condition field op criteria =>
    s!"depth = {depth}, kind: condition, field: {field.name}, op: {op.text}, children: 0, " ++
      s!"rule: {criteria.text}\n"
  | join op _ _ => s!"depth = {depth}, kind: logical, op: {op.text}, children: 2\n"

/-- A line for each node, in the order of the walk. -/
def outline (tree : Tree) : String :=
  String.join ((tree.walk 0).map fun (depth, node) => node.line depth)

end Tree

end Rule

/-- A rule: its tree, the number of its conditions, joins and groups, and the text it was read
from. -/
structure Rule where
  tree : Rule.Tree
  nodeCount : Nat
  source : String
deriving DecidableEq

def Rule.admits (rule : Rule) (post : Post) : Bool := rule.tree.admits post

end PostSieve
