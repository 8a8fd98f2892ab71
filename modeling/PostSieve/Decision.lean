import PostSieve.Post.Json

/-! Decisions: whether a post is to be deleted or kept. -/

namespace PostSieve

/-- What is to become of a post. -/
inductive Verdict
  | delete | keep
deriving DecidableEq, Repr

def Verdict.name : Verdict → String
  | delete => "delete"
  | keep => "keep"

def Verdict.ofName? (name : String) : Option Verdict :=
  [delete, keep].find? (·.name == name)

/-- The verdict on the post with an id. -/
structure Decision where
  verdict : Verdict
  postId : UInt64
deriving DecidableEq, Repr

namespace Decision

/-- Deletes the post or keeps it. -/
def ofBool (postId : UInt64) (delete : Bool) : Decision :=
  ⟨if delete then .delete else .keep, postId⟩

/-- Whether the post is to be deleted. -/
def isDelete (d : Decision) : Bool := d.verdict == .delete

end Decision

namespace Json

/-- Gives the verdict of a name that has been read. -/
def verdictOf {text : List Char} (name : Read String text) : Except Error (Read Verdict text) :=
  match Verdict.ofName? name.value with
  | some verdict => return name.map fun _ => verdict
  | none => throw (.mismatch .unreadableText)

/-- Decodes a verdict: its name, or an object whose only member has that name and is null. -/
def verdict : Decoder Verdict := fun text =>
  match h : skipSpace text with
  | [] => .error .truncated
  | '"' :: rest => do
    let name ← readString rest
    let v ← verdictOf name
    return ⟨v.value, v.rest, Nat.lt_trans v.shorter (length_lt_of_skipSpace h)⟩
  | '\x7b' :: rest => do
    let name ← string "variant identifier" rest
    let v ← verdictOf name
    let colon ← readMark ':' v.rest
    let null ← null "unit" colon.rest
    let close ← readMark '\x7d' null.rest
    return ⟨v.value, close.rest, by
      have := v.shorter; have := colon.shorter; have := null.shorter; have := close.shorter
      have := length_lt_of_skipSpace h; omega⟩
  | _ => .error .malformed

end Json

namespace Decision

/-- The fields of a decision, in order. -/
def fields : List (Json.Field Decision) :=
  [.ofDecoder "kind" Json.verdict fun d verdict => { d with verdict },
    .ofDecoder "post_id" Json.word fun d postId => { d with postId }]

def decoder : Json.Decoder Decision := Json.record "Decision" fields ⟨.keep, 0⟩

/-- Reads a text that is a decision. -/
def ofJson (text : String) : Except Json.Error Decision := Json.decode decoder text.toList

def toJson (d : Decision) : String :=
  Json.writeObject
    [("kind", Json.writeString d.verdict.name), ("post_id", Json.writeWord d.postId)]

end Decision

end PostSieve
