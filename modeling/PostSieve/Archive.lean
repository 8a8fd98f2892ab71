import PostSieve.Calendar.Layout
import PostSieve.Post.Json

/-! Archives of posts: a list of JSON records whose values are texts, with an optional header in
front. An archive is loaded as a whole or not at all. -/

namespace PostSieve

/-- Why a file cannot be read as text. -/
inductive FileError
  | missing
  | notText
  | other (reason : String)
deriving DecidableEq, Repr

def FileError.message : FileError → String
  | missing => "No such file or directory (os error 2)"
  | notText => "stream did not contain valid UTF-8"
  | other reason => reason

namespace Archive

/-- The values of an entry that must have a meaning. -/
inductive Part
  | id | createdAt | favoriteCount | retweetCount
deriving DecidableEq, Repr

/-- The name of a value in the archive. -/
def Part.name : Part → String
  | id => "id"
  | createdAt => "created_at"
  | favoriteCount => "favorite_count"
  | retweetCount => "retweet_count"

/-- An entry of an archive, as it stands there. -/
structure Entry where
  id : String := ""
  createdAt : String := ""
  text : String := ""
  favoriteCount : String := ""
  retweetCount : String := ""
deriving DecidableEq, Repr

/-- Why an archive cannot be loaded. -/
inductive Error
  | file (cause : FileError)
  | json (cause : Json.Error)
  | invalidValue (id : String) (part : Part) (value : String)
deriving DecidableEq, Repr

def Error.message : Error → String
  | file cause => s!"IO error: {cause.message}"
  | json cause => s!"Invalid archive JSON: {cause.summary}"
  | invalidValue id part value => s!"Invalid {part.name} for tweet {id}: {value}"

/-- The wording of an error, followed by that of its cause where another part of the program has
found it. -/
def Error.trail : Error → String
  | file cause => s!"{(file cause).message}: {cause.message}"
  | json cause => s!"{(json cause).message}: {cause.summary}"
  | invalidValue id part value => (invalidValue id part value).message

namespace Entry

/-- The members of an entry's record, in order. -/
def fields : List (Json.Field Entry) :=
  let text := Json.string "a string"
  [.ofDecoder "id" text fun e id => { e with id },
    .ofDecoder "created_at" text fun e createdAt => { e with createdAt },
    .ofDecoder "full_text" text fun e text => { e with text },
    .ofDecoder "favorite_count" text fun e favoriteCount => { e with favoriteCount },
    .ofDecoder "retweet_count" text fun e retweetCount => { e with retweetCount }]

/-- Decodes an entry: a record around the record of its values. -/
def decoder : Json.Decoder Entry :=
  Json.record "ArchiveEntry"
    [.ofDecoder "tweet" (Json.record "ArchiveTweet" fields {}) fun _ entry => entry] {}

/-- What `read` makes of a value of the entry, which is at fault if that is nothing. -/
def part {α : Type} (entry : Entry) (part : Part) (value : String)
    (read : List Char → Option α) : Except Error α :=
  match read value.toList with
  | some x => .ok x
  | none => .error (.invalidValue entry.id part value)

/-- The instant that the text of a creation time names. -/
def readInstant? (text : List Char) : Option Calendar.Instant :=
  Calendar.Layout.read Calendar.archiveLayout {} text >>= Calendar.Fields.instant?

/-- The post of an entry. The values are looked at in the order of their parts. -/
def toPost (entry : Entry) : Except Error Post := do
  let id ← entry.part .id entry.id readSignedWord64?
  let createdAt ← entry.part .createdAt entry.createdAt readInstant?
  let likes ← entry.part .favoriteCount entry.favoriteCount readSignedWord64?
  let retweets ← entry.part .retweetCount entry.retweetCount readSignedWord64?
  return { Post.new id createdAt entry.text with likes, retweets }

end Entry

/-- What stands in front of the JSON text. -/
def header : String := "window.YTD.tweet.part0 = "

/-- The JSON text of an archive: byte order marks, then blanks and then the header are left out
where they are there. -/
def payload (text : List Char) : List Char :=
  let text := dropBlanks (text.dropWhile (· == '\uFEFF'))
  if header.toList.isPrefixOf text then text.drop header.length else text

def entries (text : String) : Except Json.Error (List Entry) :=
  Json.decode (Json.list Entry.decoder) (payload text.toList)

def read (text : String) : Except Error (List Post) := do
  let entries ← (entries text).mapError .json
  entries.mapM Entry.toPost

/-- The text of a file, given what reading its bytes gave. -/
def fileText (file : Except FileError ByteArray) : Except FileError String := do
  match String.fromUTF8? (← file) with
  | some text => return text
  | none => throw .notText

/-- The posts of the archive in a file, given what reading its bytes gave. -/
def load (file : Except FileError ByteArray) : Except Error (List Post) := do
  read (← (fileText file).mapError .file)

end Archive

end PostSieve
