import PostSieve.Calendar.Instant

/-! Posts: what rules are evaluated against. -/

namespace PostSieve

/-- A post and what is known about it. -/
structure Post where
  id : UInt64
  createdAt : Calendar.Instant
  text : String
  likes : UInt64 := 0
  retweets : UInt64 := 0
  replies : UInt64 := 0
  isRetweet : Bool
  isReply : Bool
deriving DecidableEq

namespace Post

/-- A post with no likes, retweets or replies. Its text tells whether it is a retweet or a reply. -/
def new (id : UInt64) (createdAt : Calendar.Instant) (text : String) : Post where
  id
  createdAt
  text
  isRetweet := ['R', 'T'].isPrefixOf text.toList
  isReply := ['@'].isPrefixOf text.toList

/-- The empty post of the beginning of 1970. -/
def empty : Post := new 0 .epoch ""

instance : Inhabited Post := ⟨empty⟩

end Post

end PostSieve
