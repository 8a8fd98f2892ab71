import PostSieve.Calendar.Timestamp
import PostSieve.Json.Decoder
import PostSieve.Json.Writer
import PostSieve.Post

/-! Posts as JSON records. -/

namespace PostSieve

open Calendar (Instant)

/-- Decodes a timestamp that stands in a string. -/
def Json.timestamp : Json.Decoder Instant := fun text => do
  let s ← string "an RFC 3339 formatted date and time string" text
  match Instant.readTimestamp? s.value with
  | some t => return s.map fun _ => t
  | none => throw (.mismatch .unreadableText)

namespace Post

/-- The fields of a post, in order. -/
def fields : List (Json.Field Post) :=
  [.ofDecoder "id" Json.word fun p id => { p with id },
    .ofDecoder "created_at" Json.timestamp fun p createdAt => { p with createdAt },
    .ofDecoder "text" (Json.string "a string") fun p text => { p with text },
    .ofDecoder "num_likes" Json.word fun p likes => { p with likes },
    .ofDecoder "num_retweets" Json.word fun p retweets => { p with retweets },
    .ofDecoder "num_replies" Json.word fun p replies => { p with replies },
    .ofDecoder "is_retweet" Json.boolean fun p isRetweet => { p with isRetweet },
    .ofDecoder "is_reply" Json.boolean fun p isReply => { p with isReply }]

/-- Decodes a post. Its flags are those of the record, whatever its text. -/
def decoder : Json.Decoder Post := Json.record "Post" fields empty

/-- Reads a text that is a post. -/
def ofJson (text : String) : Except Json.Error Post := Json.decode decoder text.toList

def toJson (p : Post) : String :=
  Json.writeObject
    [("id", Json.writeWord p.id),
      ("created_at", Json.writeString p.createdAt.zuluText),
      ("text", Json.writeString p.text),
      ("num_likes", Json.writeWord p.likes),
      ("num_retweets", Json.writeWord p.retweets),
      ("num_replies", Json.writeWord p.replies),
      ("is_retweet", Json.writeBool p.isRetweet),
      ("is_reply", Json.writeBool p.isReply)]

end Post

end PostSieve
