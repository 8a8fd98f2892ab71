import PostSieve.Proofs.CreationTimes
import PostSieve.Proofs.Json.Records
import PostSieve.Proofs.Json.Writing
import PostSieve.Proofs.Loading

/-! Archive texts: however a list of posts is written as an archive, reading the archive gives that
list back. -/

namespace PostSieve.Archive

open Calendar (Instant Offset)
open Json (RecordPart WritesString WritesRecord WritesList IsSpaces Decodes Slot)

/-- A post as an archive holds it: it was created at the beginning of a second, and in a year of up
to four digits where its creation time was written. -/
structure Stored where
  id : UInt64
  likes : UInt64
  retweets : UInt64
  text : String
  createdAt : Instant
  /-- The place where clocks show the creation time as it is written. -/
  offset : Offset
  whole : createdAt.nanos = 0
  year_nonneg : 0 ≤ (createdAt.localDate offset).year
  year_lt : (createdAt.localDate offset).year < 10000

namespace Stored

variable (s : Stored)

/-- The post itself, which does not depend on the offset. -/
def post : Post where
  id := s.id
  createdAt := s.createdAt
  text := s.text
  likes := s.likes
  retweets := s.retweets
  replies := 0
  isRetweet := decide (['R', 'T'] <+: s.text.toList)
  isReply := decide (['@'] <+: s.text.toList)

/-- The members that a post must have, all of them strings. -/
def parts : List RecordPart :=
  [⟨"id", WritesString (toString s.id.toNat)⟩,
    ⟨"created_at", WritesString (String.ofList (s.createdAt.localText s.offset))⟩,
    ⟨"full_text", WritesString s.text⟩,
    ⟨"favorite_count", WritesString (toString s.likes.toNat)⟩,
    ⟨"retweet_count", WritesString (toString s.retweets.toNat)⟩]

/-- Whether a text is an entry for the post. -/
def Writes (text : List Char) : Prop := WritesRecord [⟨"tweet", WritesRecord s.parts⟩] text

end Stored

/-- Whether a text may stand in front of the JSON text: byte order marks, blanks and the header,
of which each may be missing. -/
def IsFront (front : List Char) : Prop :=
  ∃ marks blanks, (∀ c ∈ marks, c = '\uFEFF') ∧ (∀ c ∈ blanks, isBlank c = true) ∧
    (front = marks ++ blanks ∨ front = marks ++ (blanks ++ header.toList))

/-- Whether a text is an archive of some posts. -/
def Writes (stored : List Stored) (text : String) : Prop :=
  ∃ front before json after, IsFront front ∧ IsSpaces before ∧ IsSpaces after ∧
    WritesList Stored.Writes stored json ∧ text.toList = front ++ (before ++ (json ++ after))

/-! ### What stands in front -/

theorem isBlank_of_isSpace {c : Char} (h : Json.isSpace c = true) : isBlank c = true := by
  simp only [Json.isSpace, Bool.or_eq_true, beq_iff_eq] at h
  rcases h with ((rfl | rfl) | rfl) | rfl <;> rfl

theorem dropBlanks_dropWhile {marks gap rest : List Char} {c : Char}
    (hMarks : ∀ a ∈ marks, a = '\uFEFF') (hGap : ∀ a ∈ gap, isBlank a = true)
    (hBlank : isBlank c = false) (hMark : c ≠ '\uFEFF') :
    dropBlanks ((marks ++ (gap ++ c :: rest)).dropWhile (· == '\uFEFF')) = c :: rest := by
  have hHead : ∀ a ∈ (gap ++ c :: rest).head?, (a == '\uFEFF') = false := by
    rw [List.head?_append, List.head?_cons]
    intro a ha
    refine beq_eq_false_iff_ne.mpr ?_
    cases gap with
    | nil => rwa [← Option.some.inj ha]
    | cons blank gap =>
      rintro rfl
      exact absurd (hGap _ (List.mem_of_mem_head? ha)) (by decide)
  rw [dropWhile_append_of_head (fun a ha => by simp [hMarks a ha]) hHead]
  exact dropWhile_append_of_head hGap (by simpa using hBlank)

/-- What is left of an archive is its JSON text, with spaces around it. -/
theorem exists_payload {front before json after : List Char} (hFront : IsFront front)
    (hBefore : IsSpaces before) (hJson : ∃ rest, json = '[' :: rest) :
    ∃ spaces, IsSpaces spaces ∧
      payload (front ++ (before ++ (json ++ after))) = spaces ++ (json ++ after) := by
  obtain ⟨marks, blanks, hMarks, hBlanks, rfl | rfl⟩ := hFront
  · obtain ⟨rest, rfl⟩ := hJson
    have hGap : ∀ c ∈ blanks ++ before, isBlank c = true := by
      intro c hc
      rcases List.mem_append.mp hc with hBlank | hSpace
      · exact hBlanks c hBlank
      · exact isBlank_of_isSpace (hBefore c hSpace)
    have hDrop := @dropBlanks_dropWhile marks (blanks ++ before) (rest ++ after) '[' hMarks hGap
      rfl (by decide)
    refine ⟨[], Json.isSpaces_nil, ?_⟩
    rw [payload, List.append_assoc, ← List.append_assoc blanks, List.cons_append, hDrop]
    exact if_neg (by simp [header])
  · obtain ⟨tail, hHeader⟩ : ∃ tail, header.toList = 'w' :: tail := ⟨_, rfl⟩
    have hDrop := @dropBlanks_dropWhile marks blanks (tail ++ (before ++ (json ++ after))) 'w'
      hMarks hBlanks rfl (by decide)
    have hLength : header.length = header.toList.length := String.length_toList.symm
    rw [← List.cons_append, ← hHeader] at hDrop
    refine ⟨before, hBefore, ?_⟩
    rw [payload, List.append_assoc, List.append_assoc, hDrop, hLength]
    rw [if_pos (List.isPrefixOf_iff_prefix.mpr (List.prefix_append _ _)), List.drop_left]

/-! ### Entries -/

namespace Stored

variable (s : Stored)

/-- The entry that is read for the post. -/
def entry : Entry where
  id := toString s.id.toNat
  createdAt := String.ofList (s.createdAt.localText s.offset)
  text := s.text
  favoriteCount := toString s.likes.toNat
  retweetCount := toString s.retweets.toNat

/-- A slot for a string. -/
def textSlot (name value : String) (set : Entry → String → Entry) : Slot Entry :=
  .ofDecoder name (Json.string "a string") set (WritesString value) value
    fun _ h => h.decodes "a string"

/-- The fields of an entry, with what is written into them. -/
def slots : List (Slot Entry) :=
  [textSlot "id" s.entry.id fun e id => { e with id },
    textSlot "created_at" s.entry.createdAt fun e createdAt => { e with createdAt },
    textSlot "full_text" s.entry.text fun e text => { e with text },
    textSlot "favorite_count" s.entry.favoriteCount fun e favoriteCount => { e with favoriteCount },
    textSlot "retweet_count" s.entry.retweetCount fun e retweetCount => { e with retweetCount }]

theorem slots_commute : ∀ a ∈ s.slots, ∀ b ∈ s.slots, ∀ e,
    a.change (b.change e) = b.change (a.change e) := by
  intro a ha b hb e
  simp only [slots, List.mem_cons, List.not_mem_nil, or_false] at ha hb
  rcases ha with rfl | rfl | rfl | rfl | rfl <;> rcases hb with rfl | rfl | rfl | rfl | rfl <;> rfl

theorem decodes_values {text : List Char} (h : WritesRecord s.parts text) :
    Decodes (Json.record "ArchiveTweet" Entry.fields {}) text s.entry :=
  h.decodes_slots rfl rfl (by decide) s.slots_commute rfl

theorem decodes_entry {text : List Char} (h : s.Writes text) :
    Decodes Entry.decoder text s.entry := by
  let slots : List (Slot Entry) :=
    [.ofDecoder "tweet" (Json.record "ArchiveTweet" Entry.fields {}) (fun _ entry => entry)
      (WritesRecord s.parts) s.entry fun _ h => s.decodes_values h]
  have hCommute : ∀ a ∈ slots, ∀ b ∈ slots, ∀ e : Entry,
      a.change (b.change e) = b.change (a.change e) := by
    intro a ha b hb e
    rw [List.mem_singleton.mp ha, List.mem_singleton.mp hb]
  exact @WritesRecord.decodes_slots _ slots _ _ _ _ _ _ h rfl rfl (by decide) hCommute rfl

/-- The values of an entry mean the post that the entry was written for. -/
theorem tells_entry : s.entry.Tells s.post where
  id := writesSignedWord_toString s.id
  createdAt := by
    rw [entry, String.toList_ofList]
    exact Entry.readInstant?_localText s.whole s.year_nonneg s.year_lt
  text := rfl
  likes := writesSignedWord_toString s.likes
  retweets := writesSignedWord_toString s.retweets
  replies := rfl
  isRetweet := decide_eq_true_iff
  isReply := decide_eq_true_iff

end Stored

theorem mapM_entries (stored : List Stored) :
    (stored.map Stored.entry).mapM Entry.toPost = .ok (stored.map Stored.post) := by
  rw [mapM_eq_ok_iff, List.forall₂_map_left_iff, List.forall₂_map_right_iff, List.forall₂_same]
  exact fun s _ => Entry.toPost_eq_ok_iff.mpr s.tells_entry

theorem entries_eq_of_writes {stored : List Stored} {text : String} (h : Writes stored text) :
    entries text = .ok (stored.map Stored.entry) := by
  obtain ⟨front, before, json, after, hFront, hBefore, hAfter, hJson, hText⟩ := h
  have hOpen : ∃ rest, json = '[' :: rest := by
    obtain ⟨items, -, inner, -, rfl⟩ := hJson
    exact ⟨_, rfl⟩
  obtain ⟨spaces, hSpaces, hPayload⟩ := @exists_payload _ _ _ after hFront hBefore hOpen
  have hDecodes : Decodes (Json.list Entry.decoder) json (stored.map Stored.entry) :=
    hJson.decodes_map fun s _ hItem => s.decodes_entry hItem
  rw [entries, hText, hPayload]
  exact hDecodes.decode_eq hSpaces hAfter

/-- Reading an archive gives back the posts that it was written for, in their order. -/
theorem read_eq_of_writes {stored : List Stored} {text : String} (h : Writes stored text) :
    Archive.read text = .ok (stored.map Stored.post) := by
  rw [Archive.read, entries_eq_of_writes h]
  exact mapM_entries stored

/-! ### An archive as it is exported -/

namespace Stored

variable (s : Stored)

/-- The members of a post's entry, written. -/
def members : List (String × String) :=
  [("id", Json.writeString s.entry.id), ("created_at", Json.writeString s.entry.createdAt),
    ("full_text", Json.writeString s.entry.text),
    ("favorite_count", Json.writeString s.entry.favoriteCount),
    ("retweet_count", Json.writeString s.entry.retweetCount)]

/-- An entry on several lines, with further members in front. -/
def json (others : List (String × String)) : String :=
  Json.objectBlock 2 [("tweet", Json.objectBlock 4 (others ++ s.members))]

theorem writes_json {others : List (String × String)} (h : ∀ m ∈ others,
    Json.IsJson m.2.toList ∧ ∀ part ∈ s.parts, part.name ≠ m.1) :
    s.Writes (s.json others).toList := by
  have hMembers : List.Forall₂
      (fun (part : RecordPart) m => part.name = m.1 ∧ part.Writes m.2.toList)
      s.parts s.members := by
    simp only [parts, members, List.forall₂_cons, true_and, and_true, List.Forall₂.nil]
    exact ⟨Json.writesString_writeString _, Json.writesString_writeString _,
      Json.writesString_writeString _, Json.writesString_writeString _,
      Json.writesString_writeString _⟩
  have hValues := Json.writesRecord_objectBlock 4 hMembers h
  exact @Json.writesRecord_objectBlock _ [("tweet", _)] [] 2 (.cons ⟨rfl, hValues⟩ .nil) nofun

end Stored

/-- A post of the evening of 10 October 2018, written two hours west of Greenwich. -/
def sampleStored : Stored where
  id := 7
  likes := 3
  retweets := 18446744073709551615
  text := "RT @pal: \"hi\""
  createdAt := .ofSecond 1539202764 (by decide) (by decide)
  offset := { west := true, minutes := 120, minutes_lt := by decide }
  whole := rfl
  year_nonneg := by decide
  year_lt := by decide

/-- An archive of that post, with a byte order mark, blanks and the header in front of it and with a
member that posts need not have. -/
def sampleText : String :=
  String.ofList ['\uFEFF'] ++ (String.ofList [' ', '\n'] ++
    (header ++ Json.listBlock 0 [sampleStored.json [("lang", "null")]]))

theorem read_eq_of_writes_sample : Writes [sampleStored] sampleText ∧
    Archive.read sampleText = .ok [sampleStored.post] := by
  have hOthers : ∀ m ∈ [("lang", "null")], Json.IsJson m.2.toList ∧
      ∀ part ∈ sampleStored.parts, part.name ≠ m.1 := by
    rw [List.forall_mem_singleton]
    exact ⟨.word (by decide), by simp [Stored.parts]⟩
  have hWrites : Writes [sampleStored] sampleText := by
    have hList := Json.writesList_listBlock 0 (.cons (sampleStored.writes_json hOthers) .nil)
    refine ⟨['\uFEFF'] ++ ([' ', '\n'] ++ header.toList), [], _, [], ?_, Json.isSpaces_nil,
      Json.isSpaces_nil, hList, ?_⟩
    · have hBlanks : ∀ c ∈ [' ', '\n'], isBlank c = true :=
        List.forall_mem_cons.mpr ⟨rfl, List.forall_mem_singleton.mpr rfl⟩
      exact ⟨['\uFEFF'], [' ', '\n'], by simp, hBlanks, Or.inr rfl⟩
    · rw [sampleText, String.toList_append, String.toList_append, String.toList_append,
        String.toList_ofList, String.toList_ofList, List.append_assoc, List.append_assoc,
        List.nil_append, List.append_nil]
  exact ⟨hWrites, read_eq_of_writes hWrites⟩

end PostSieve.Archive
