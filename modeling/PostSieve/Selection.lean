import PostSieve.Archive
import PostSieve.Decision
import PostSieve.Rule.Reading

/-! Selections: the posts to delete by a rule, or all others. -/

namespace PostSieve

/-- A rule, and whether it names the posts to keep instead of those to delete. -/
structure Selection where
  rule : Rule
  inverted : Bool := false
deriving DecidableEq

namespace Selection

def decide (s : Selection) (post : Post) : Decision :=
  .ofBool post.id (s.rule.admits post != s.inverted)

/-- The posts to delete, in their order. -/
def select (s : Selection) (posts : List Post) : List Post :=
  posts.filter fun post => (s.decide post).isDelete

/-- The ids of the posts to delete. -/
def ids (s : Selection) (posts : List Post) : List UInt64 := (s.select posts).map Post.id

/-- Why nothing can be selected. -/
inductive Error
  | rule (cause : Rule.RuleError)
  | archive (cause : Archive.Error)
deriving DecidableEq, Repr

def Error.message : Error → String
  | rule cause => s!"Parse error: {cause.message}"
  | archive cause => s!"Archive error: {cause.message}"

/-- The ids of the posts to delete from the archive in a file. The rule is read first. -/
def fromArchive (options : Rule.Options) (rule : String) (inverted : Bool)
    (file : Except FileError ByteArray) : Except Error (List UInt64) := do
  let rule ← (Rule.read options rule).mapError .rule
  let posts ← (Archive.load file).mapError .archive
  return ids ⟨rule, inverted⟩ posts

end Selection

end PostSieve
