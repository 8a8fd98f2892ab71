import PostSieve.Decision
import PostSieve.Proofs.Json.Records
import PostSieve.Proofs.Json.Writing
import PostSieve.Proofs.Timestamps

/-! Posts and decisions as texts: what is written for one is read as it, so that no two of them have
the same text. -/

namespace PostSieve

open Calendar (Instant)
open Json (Decodes RecordPart Slot WritesString WritesFlag WritesNatural WritesRecord)

/-! ### Timestamps and verdicts -/

theorem Json.WritesString.decodes_timestamp {t : Instant} {s : String} {text : List Char}
    (h : WritesString s text) (hTime : Instant.readTimestamp? s = some t) :
    Decodes Json.timestamp text t where
  starts := h.startsValue
  reads spaces rest hSpaces hRest := by
    obtain ⟨shorter, hString⟩ :=
      (h.decodes "an RFC 3339 formatted date and time string").reads spaces rest hSpaces hRest
    refine ⟨shorter, ?_⟩
    simp only [Json.timestamp, hString, bind, Except.bind, hTime]
    rfl

theorem Verdict.ofName?_name (v : Verdict) : ofName? v.name = some v := by
  cases v <;> decide

theorem Json.WritesString.decodes_verdict {v : Verdict} {text : List Char}
    (h : WritesString v.name text) : Decodes Json.verdict text v where
  starts := h.startsValue
  reads spaces rest hSpaces _ := by
    -- A verdict may also be an object, so its decoder takes the quote before it reads the name.
    obtain ⟨body, rfl, hBody⟩ := h.exists_reads
    obtain ⟨shorter, hName⟩ := hBody rest
    have hText : skipSpace (spaces ++ ('"' :: body ++ rest)) = '"' :: (body ++ rest) :=
      skipSpace_append_cons hSpaces rfl
    refine ⟨Nat.lt_trans shorter (length_lt_of_skipSpace hText), ?_⟩
    unfold verdict
    split
    · rename_i hNil
      cases hText.symm.trans hNil
    · rename_i hCons
      cases hText.symm.trans hCons
      simp only [hName, bind, Except.bind, verdictOf, v.ofName?_name]
      rfl
    · rename_i hCons
      cases hText.symm.trans hCons
    · rename_i hOther _
      exact absurd hText (hOther _)

/-! ### Posts -/

namespace Post

variable (p : Post)

/-- The members of a post, with the texts that are their values. -/
def parts : List RecordPart :=
  [⟨"id", WritesNatural p.id.toNat⟩,
    ⟨"created_at", WritesString p.createdAt.zuluText⟩,
    ⟨"text", WritesString p.text⟩,
    ⟨"num_likes", WritesNatural p.likes.toNat⟩,
    ⟨"num_retweets", WritesNatural p.retweets.toNat⟩,
    ⟨"num_replies", WritesNatural p.replies.toNat⟩,
    ⟨"is_retweet", WritesFlag p.isRetweet⟩,
    ⟨"is_reply", WritesFlag p.isReply⟩]

/-- A slot for a count or an id. -/
def wordSlot (name : String) (value : UInt64) (set : Post → UInt64 → Post) : Slot Post :=
  .ofDecoder name Json.word set (WritesNatural value.toNat) value fun _ h => h.decodes_word

/-- A slot for a flag. -/
def flagSlot (name : String) (value : Bool) (set : Post → Bool → Post) : Slot Post :=
  .ofDecoder name Json.boolean set (WritesFlag value) value fun _ h => h.decodes

/-- The fields of a post, with what is written into them. -/
def slots : List (Slot Post) :=
  [wordSlot "id" p.id fun p id => { p with id },
    .ofDecoder "created_at" Json.timestamp (fun p createdAt => { p with createdAt })
      (WritesString p.createdAt.zuluText) p.createdAt
      fun _ h => h.decodes_timestamp p.createdAt.readTimestamp?_zuluText,
    .ofDecoder "text" (Json.string "a string") (fun p text => { p with text })
      (WritesString p.text) p.text fun _ h => h.decodes "a string",
    wordSlot "num_likes" p.likes fun p likes => { p with likes },
    wordSlot "num_retweets" p.retweets fun p retweets => { p with retweets },
    wordSlot "num_replies" p.replies fun p replies => { p with replies },
    flagSlot "is_retweet" p.isRetweet fun p isRetweet => { p with isRetweet },
    flagSlot "is_reply" p.isReply fun p isReply => { p with isReply }]

theorem slots_commute : ∀ a ∈ p.slots, ∀ b ∈ p.slots, ∀ q,
    a.change (b.change q) = b.change (a.change q) := by
  intro a ha b hb q
  simp only [slots, List.mem_cons, List.not_mem_nil, or_false] at ha hb
  rcases ha with rfl | rfl | rfl | rfl | rfl | rfl | rfl | rfl <;>
    rcases hb with rfl | rfl | rfl | rfl | rfl | rfl | rfl | rfl <;> rfl

theorem foldl_slots : p.slots.foldl (fun q slot => slot.change q) empty = p := by
  simp only [slots, wordSlot, flagSlot, Slot.ofDecoder, List.foldl_cons, List.foldl_nil]

/-- However a post is written as an object, it is read as that post. -/
theorem decodes_of_writes {text : List Char} (h : WritesRecord p.parts text) :
    Decodes decoder text p :=
  h.decodes_slots rfl rfl (by decide) p.slots_commute p.foldl_slots

theorem writes_toJson : WritesRecord p.parts p.toJson.toList := by
  apply Json.writesRecord_writeObject
  simp only [parts, List.forall₂_cons, true_and, and_true, List.Forall₂.nil]
  exact ⟨rfl, Json.writesString_writeString _, Json.writesString_writeString _, rfl, rfl, rfl, rfl,
    rfl⟩

theorem ofJson_toJson : ofJson p.toJson = .ok p := by
  have hRead := (p.decodes_of_writes p.writes_toJson).decode_eq Json.isSpaces_nil Json.isSpaces_nil
  rwa [List.nil_append, List.append_nil] at hRead

end Post

/-! ### Decisions -/

namespace Decision

variable (d : Decision)

/-- The members of a decision, with the texts that are their values. -/
def parts : List RecordPart :=
  [⟨"kind", WritesString d.verdict.name⟩, ⟨"post_id", WritesNatural d.postId.toNat⟩]

/-- The fields of a decision, with what is written into them. -/
def slots : List (Slot Decision) :=
  [.ofDecoder "kind" Json.verdict (fun d verdict => { d with verdict })
      (WritesString d.verdict.name) d.verdict fun _ h => h.decodes_verdict,
    .ofDecoder "post_id" Json.word (fun d postId => { d with postId })
      (WritesNatural d.postId.toNat) d.postId fun _ h => h.decodes_word]

theorem slots_commute : ∀ a ∈ d.slots, ∀ b ∈ d.slots, ∀ e,
    a.change (b.change e) = b.change (a.change e) := by
  intro a ha b hb e
  simp only [slots, List.mem_cons, List.not_mem_nil, or_false] at ha hb
  rcases ha with rfl | rfl <;> rcases hb with rfl | rfl <;> rfl

/-- However a decision is written as an object, it is read as that decision. -/
theorem decodes_of_writes {text : List Char} (h : WritesRecord d.parts text) :
    Decodes decoder text d :=
  h.decodes_slots rfl rfl (by decide) d.slots_commute rfl

theorem writes_toJson : WritesRecord d.parts d.toJson.toList := by
  apply Json.writesRecord_writeObject
  simp only [parts, List.forall₂_cons, true_and, and_true, List.Forall₂.nil]
  exact ⟨Json.writesString_writeString _, rfl⟩

theorem ofJson_toJson : ofJson d.toJson = .ok d := by
  have hRead := (d.decodes_of_writes d.writes_toJson).decode_eq Json.isSpaces_nil Json.isSpaces_nil
  rwa [List.nil_append, List.append_nil] at hRead

end Decision

theorem injective_of_ofJson {α : Type} {toJson : α → String} {ofJson : String → Except Json.Error α}
    (h : ∀ value, ofJson (toJson value) = .ok value) : Function.Injective toJson := by
  intro value other hSame
  have hRead := (h value).symm.trans (hSame ▸ h other)
  exact Except.ok.inj hRead

/-- What is written for a post is read as that post, whatever its counts, its text, its flags and
the instant of its creation are, and what is written for a decision is read as that decision. So no
two posts are written alike, and no two decisions. -/
theorem toJson_faithful :
    (∀ p : Post, Post.ofJson p.toJson = .ok p) ∧
      (∀ d : Decision, Decision.ofJson d.toJson = .ok d) ∧
      Function.Injective Post.toJson ∧ Function.Injective Decision.toJson :=
  ⟨Post.ofJson_toJson, Decision.ofJson_toJson, injective_of_ofJson Post.ofJson_toJson,
    injective_of_ofJson Decision.ofJson_toJson⟩

end PostSieve
