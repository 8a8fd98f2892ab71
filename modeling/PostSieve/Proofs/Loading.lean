import Mathlib.Data.List.TakeWhile
import PostSieve.Archive
import PostSieve.Proofs.Decimals
import PostSieve.Proofs.Results

/-! Loading an archive: all of its entries become posts, or the first entry at fault tells the
error. -/

namespace PostSieve.Archive

/-! ### What is left of a text -/

/-- Whether a text is characters of a class, or none, in front of a rest that begins with no such
character. -/
def Strips (p : Char → Bool) (text rest : List Char) : Prop :=
  ∃ front, (∀ c ∈ front, p c = true) ∧ (∀ c ∈ rest.head?, p c = false) ∧ text = front ++ rest

/-- Whether a text is byte order marks, blanks and the header, of which each may be missing, in
front of its JSON text. -/
def IsPayload (text json : List Char) : Prop :=
  ∃ unmarked rest, Strips (· == '\uFEFF') text unmarked ∧ Strips isBlank unmarked rest ∧
    (rest = header.toList ++ json ∨ ¬ header.toList <+: rest ∧ json = rest)

theorem strips_iff {p : Char → Bool} {text rest : List Char} :
    Strips p text rest ↔ rest = text.dropWhile p := by
  constructor
  · rintro ⟨front, hFront, hRest, rfl⟩
    exact (dropWhile_append_of_head hFront hRest).symm
  · rintro rfl
    refine ⟨text.takeWhile p, fun c hc => List.mem_takeWhile_imp hc, fun c hc => ?_,
      List.takeWhile_append_dropWhile.symm⟩
    have hHead := List.head?_dropWhile_not p text
    rwa [show (text.dropWhile p).head? = some c from hc] at hHead

theorem header_append_or_iff {rest json : List Char} :
    rest = header.toList ++ json ∨ ¬ header.toList <+: rest ∧ json = rest ↔
      json = if header.toList.isPrefixOf rest then rest.drop header.length else rest := by
  have hLength : header.length = header.toList.length := String.length_toList.symm
  simp only [List.isPrefixOf_iff_prefix, hLength]
  split
  · rename_i hHeader
    obtain ⟨tail, rfl⟩ := hHeader
    simp [eq_comm]
  · rename_i hHeader
    refine ⟨fun h => (h.resolve_left ?_).2, fun h => .inr ⟨hHeader, h⟩⟩
    rintro rfl
    exact hHeader (List.prefix_append _ _)

/-- Every text has one JSON text. -/
theorem isPayload_iff {text json : List Char} : IsPayload text json ↔ json = payload text := by
  simp only [IsPayload, strips_iff, header_append_or_iff]
  constructor
  · rintro ⟨_, _, rfl, rfl, h⟩
    exact h
  · exact fun h => ⟨_, _, rfl, rfl, h⟩

/-! ### The values of an entry -/

/-- The parts of an entry, in the order in which they are looked at. -/
def Part.inOrder : List Part := [id, createdAt, favoriteCount, retweetCount]

namespace Entry

/-- The text of a part, as it stands in the archive. -/
def raw (entry : Entry) : Part → String
  | .id => entry.id
  | .createdAt => entry.createdAt
  | .favoriteCount => entry.favoriteCount
  | .retweetCount => entry.retweetCount

/-- Whether a part has a meaning: the creation time names an instant, and each of the others writes
a number below 2^64. -/
def IsSound (entry : Entry) (part : Part) : Prop :=
  match part with
  | .createdAt => ∃ t, readInstant? (entry.raw .createdAt).toList = some t
  | part => ∃ n, WritesSignedWord (entry.raw part).toList n

/-- Whether an error is about the first of some parts of an entry that has no meaning. -/
def Fails (entry : Entry) (parts : List Part) (e : Error) : Prop :=
  ∃ part, FirstFault entry.IsSound parts part ∧ e = .invalidValue entry.id part (entry.raw part)

/-- Whether a post is what an entry tells. -/
structure Tells (entry : Entry) (post : Post) : Prop where
  id : WritesSignedWord entry.id.toList post.id
  createdAt : readInstant? entry.createdAt.toList = some post.createdAt
  text : post.text = entry.text
  likes : WritesSignedWord entry.favoriteCount.toList post.likes
  retweets : WritesSignedWord entry.retweetCount.toList post.retweets
  replies : post.replies = 0
  isRetweet : post.isRetweet = true ↔ ['R', 'T'] <+: entry.text.toList
  isReply : post.isReply = true ↔ ['@'] <+: entry.text.toList

variable {entry : Entry} {post : Post} {e : Error}

theorem part_eq_ok_iff {α : Type} {part : Part} {value : String} {read : List Char → Option α}
    {x : α} : entry.part part value read = .ok x ↔ read value.toList = some x := by
  unfold Entry.part
  cases read value.toList <;> simp

theorem part_eq_error_iff {α : Type} {part : Part} {value : String}
    {read : List Char → Option α} : entry.part part value read = .error e ↔
      (¬ ∃ x, read value.toList = some x) ∧ e = .invalidValue entry.id part value := by
  unfold Entry.part
  cases read value.toList <;> simp [eq_comm]

theorem tells_new {id likes retweets : UInt64} {t : Calendar.Instant}
    (hId : WritesSignedWord entry.id.toList id)
    (hTime : readInstant? entry.createdAt.toList = some t)
    (hLikes : WritesSignedWord entry.favoriteCount.toList likes)
    (hRetweets : WritesSignedWord entry.retweetCount.toList retweets) :
    entry.Tells { Post.new id t entry.text with likes, retweets } :=
  ⟨hId, hTime, rfl, hLikes, hRetweets, rfl, List.isPrefixOf_iff_prefix, List.isPrefixOf_iff_prefix⟩

theorem Tells.eq_post (h : entry.Tells post) :
    { Post.new post.id post.createdAt entry.text with
      likes := post.likes, retweets := post.retweets } = post := by
  have hRetweet := h.isRetweet
  have hReply := h.isReply
  rw [← List.isPrefixOf_iff_prefix, ← Bool.eq_iff_iff, ← h.text] at hRetweet hReply
  simp only [Post.new, ← h.text, ← h.replies, ← hRetweet, ← hReply]

theorem toPost_eq_ok_iff : entry.toPost = .ok post ↔ entry.Tells post := by
  simp only [toPost, bind_eq_ok_iff, part_eq_ok_iff, readSignedWord64?_eq_some, pure_eq_ok_iff]
  constructor
  · rintro ⟨id, hId, t, hTime, likes, hLikes, retweets, hRetweets, rfl⟩
    exact tells_new hId hTime hLikes hRetweets
  · intro h
    exact ⟨_, h.id, _, h.createdAt, _, h.likes, _, h.retweets, h.eq_post.symm⟩

theorem exists_tells_iff : (∃ post, entry.Tells post) ↔ ∀ part, entry.IsSound part := by
  constructor
  · rintro ⟨post, h⟩ part
    cases part with
    | id => exact ⟨_, h.id⟩
    | createdAt => exact ⟨_, h.createdAt⟩
    | favoriteCount => exact ⟨_, h.likes⟩
    | retweetCount => exact ⟨_, h.retweets⟩
  · intro h
    obtain ⟨id, hId⟩ := h .id
    obtain ⟨t, hTime⟩ := h .createdAt
    obtain ⟨likes, hLikes⟩ := h .favoriteCount
    obtain ⟨retweets, hRetweets⟩ := h .retweetCount
    exact ⟨_, tells_new hId hTime hLikes hRetweets⟩

theorem exists_readSignedWord64?_iff {text : List Char} :
    (∃ n, readSignedWord64? text = some n) ↔ ∃ n, WritesSignedWord text n :=
  exists_congr fun _ => readSignedWord64?_eq_some

/-- Looking at a part and then at others fails with the error of the first without a meaning. -/
theorem part_bind_eq_error_iff {α β : Type} (part : Part) {parts : List Part}
    {read : List Char → Option α} {rest : α → Except Error β}
    (hRead : (∃ x, read (entry.raw part).toList = some x) ↔ entry.IsSound part)
    (hRest : ∀ x, rest x = .error e ↔ entry.Fails parts e) :
    (entry.part part (entry.raw part) read >>= rest) = .error e ↔
      entry.Fails (part :: parts) e := by
  rw [bind_eq_error_iff, part_eq_error_iff, hRead]
  simp only [part_eq_ok_iff, hRest, exists_and_right, hRead, Fails, firstFault_cons_iff]
  constructor
  · rintro (⟨hFault, rfl⟩ | ⟨hSound, other, hLater, rfl⟩)
    · exact ⟨part, .inl ⟨hFault, rfl⟩, rfl⟩
    · exact ⟨other, .inr ⟨hSound, hLater⟩, rfl⟩
  · rintro ⟨other, ⟨hFault, rfl⟩ | ⟨hSound, hLater⟩, rfl⟩
    · exact .inl ⟨hFault, rfl⟩
    · exact .inr ⟨hSound, other, hLater, rfl⟩

/-- An entry that tells no post fails with the error of its first part without a meaning. -/
theorem toPost_eq_error_iff : entry.toPost = .error e ↔ entry.Fails Part.inOrder e := by
  unfold toPost
  refine part_bind_eq_error_iff .id exists_readSignedWord64?_iff fun id => ?_
  refine part_bind_eq_error_iff .createdAt .rfl fun t => ?_
  refine part_bind_eq_error_iff .favoriteCount exists_readSignedWord64?_iff fun likes => ?_
  refine part_bind_eq_error_iff .retweetCount exists_readSignedWord64?_iff fun retweets => ?_
  exact iff_of_false nofun fun ⟨_, h, _⟩ => nomatch h

end Entry

/-- An archive is loaded as a whole or not at all. A text that is no list of entries fails as that,
whatever its entries are. A list of entries gives one post for each, in their order, if all their
parts have a meaning, and else fails at the first part without one of the first such entry. -/
theorem read_whole (text : String) :
    ∃ json, (∀ other, IsPayload text.toList other ↔ other = json) ∧
      match Json.decode (Json.list Entry.decoder) json with
      | .error e => Archive.read text = .error (.json e)
      | .ok entries =>
        (∀ posts, Archive.read text = .ok posts ↔ List.Forall₂ Entry.Tells entries posts) ∧
        ((∃ posts, Archive.read text = .ok posts) ↔
          ∀ entry ∈ entries, ∀ part, entry.IsSound part) ∧
        ∀ e, Archive.read text = .error e ↔ ∃ entry,
          FirstFault (fun entry => ∀ part, Entry.IsSound entry part) entries entry ∧
          entry.Fails Part.inOrder e := by
  refine ⟨payload text.toList, fun _ => isPayload_iff, ?_⟩
  cases hDecode : Json.decode (Json.list Entry.decoder) (payload text.toList) with
  | error e =>
    show Archive.read text = .error (.json e)
    rw [Archive.read, entries, hDecode]
    rfl
  | ok entries =>
    have hRead : Archive.read text = entries.mapM Entry.toPost := by
      rw [Archive.read, Archive.entries, hDecode]
      rfl
    rw [hRead]
    refine ⟨fun posts => ?_, ?_, fun e => ?_⟩
    · simp only [mapM_eq_ok_iff, Entry.toPost_eq_ok_iff]
    · simp only [exists_mapM_eq_ok_iff, Entry.toPost_eq_ok_iff, Entry.exists_tells_iff]
    · simp only [mapM_eq_error_iff, Entry.toPost_eq_ok_iff, Entry.exists_tells_iff,
        Entry.toPost_eq_error_iff]

end PostSieve.Archive
