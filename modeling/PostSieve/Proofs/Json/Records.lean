import PostSieve.Proofs.Json.Decoding

/-! Decoding records: an object is read as the same record in whatever order its members stand, and
members of other names change nothing. -/

namespace PostSieve.Json

/-! ### Names of members -/

/-- Whether the next member of an object has a name, with the text behind the name. -/
def NextName (first : Bool) (text : List Char) (name : String) (rest : List Char) : Prop :=
  ∃ shorter, nextKey first text = .ok (some ⟨name, rest, shorter⟩)

theorem nextKey_close {first : Bool} {text rest : List Char}
    (h : skipSpace text = '\x7d' :: rest) : nextKey first text = .ok none := by
  unfold nextKey
  split
  · rename_i hNil
    cases h.symm.trans hNil
  · rfl
  · rename_i hCons
    cases h.symm.trans hCons
  · rename_i hCons
    cases h.symm.trans hCons
  · rename_i hOther _ _
    exact absurd h (hOther _)

theorem nextName_first {text body rest : List Char} {name : String}
    (h : skipSpace text = '"' :: body) (hName : Reads readString body name rest) :
    NextName true text name rest := by
  obtain ⟨shorter, hName⟩ := hName
  refine ⟨Nat.lt_trans shorter (length_lt_of_skipSpace h), ?_⟩
  unfold nextKey
  split
  · rename_i hNil
    cases h.symm.trans hNil
  · rename_i hCons
    cases h.symm.trans hCons
  · rename_i hCons
    cases h.symm.trans hCons
  · rename_i hCons
    cases h.symm.trans hCons
    rw [if_pos rfl, hName]
    rfl
  · rename_i hOther
    exact absurd h (hOther _)

theorem nextName_comma {text after body rest : List Char} {name : String}
    (h : skipSpace text = ',' :: after) (hAfter : skipSpace after = '"' :: body)
    (hName : Reads readString body name rest) : NextName false text name rest := by
  obtain ⟨shorter, hName⟩ := hName
  have hLt := length_lt_of_skipSpace h
  have hLt' := length_lt_of_skipSpace hAfter
  refine ⟨by omega, ?_⟩
  unfold nextKey
  split
  · rename_i hNil
    cases h.symm.trans hNil
  · rename_i hCons
    cases h.symm.trans hCons
  · rename_i hCons
    cases h.symm.trans hCons
    rw [if_neg Bool.false_ne_true]
    split
    · rename_i hNil
      cases hAfter.symm.trans hNil
    · rename_i hCons'
      cases hAfter.symm.trans hCons'
      rw [hName]
      rfl
    · rename_i hOther
      exact absurd hAfter (hOther _)
  · rename_i hCons
    cases h.symm.trans hCons
  · rename_i hOther _
    exact absurd h (hOther _)

/-- Whether a reader finds `rest` when it looks for the next member. -/
def Reaches (first : Bool) (text rest : List Char) : Prop :=
  if first then skipSpace text = rest
  else ∃ after, skipSpace text = ',' :: after ∧ skipSpace after = rest

theorem WritesString.nextName {first : Bool} {text key rest : List Char} {name : String}
    (h : WritesString name key) (hReaches : Reaches first text (key ++ rest)) :
    NextName first text name rest := by
  obtain ⟨body, rfl, hBody⟩ := h.exists_reads
  cases first with
  | true => exact nextName_first hReaches (hBody rest)
  | false =>
    obtain ⟨after, hText, hAfter⟩ := hReaches
    exact nextName_comma hText hAfter (hBody rest)

/-! ### Members -/

/-- Whether the members of an object fill a record, up to the closing bracket, and which fields have
been seen then. -/
def Fills {σ : Type} (fields : List (Field σ)) (first : Bool) (seen : List String) (start : σ)
    (text : List Char) (record : σ) (seen' : List String) (rest : List Char) : Prop :=
  ∃ r, members fields first seen start text = .ok r ∧ r.record = record ∧ r.seen = seen' ∧
    skipSpace r.rest = '\x7d' :: rest

section Fills

variable {σ : Type} {fields : List (Field σ)} {first : Bool} {seen seen' : List String}
  {start mid record : σ} {text key colon tail rest : List Char} {name : String}

theorem fills_close (h : skipSpace text = '\x7d' :: rest) :
    Fills fields first seen start text start seen rest := by
  refine ⟨⟨start, seen, text, Nat.le_refl _⟩, ?_, rfl, rfl, h⟩
  rw [members, nextKey_close h]
  rfl

theorem fills_field {field : Field σ} (hName : NextName first text name key)
    (hField : fields.find? (·.name == name) = some field) (hSeen : field.name ∉ seen)
    (hColon : Reads (readMark ':') key () colon)
    (hValue : Reads (field.read start) colon mid tail)
    (h : Fills fields false (field.name :: seen) mid tail record seen' rest) :
    Fills fields first seen start text record seen' rest := by
  obtain ⟨shorter₁, hName⟩ := hName
  obtain ⟨shorter₂, hColon⟩ := hColon
  obtain ⟨shorter₃, hValue⟩ := hValue
  obtain ⟨⟨_, _, last, hLe⟩, hRest, rfl, rfl, hClose⟩ := h
  refine ⟨⟨_, _, last, by omega⟩, ?_, rfl, rfl, hClose⟩
  rw [members, hName]
  simp only [Bind.bind, Except.bind, hField, if_neg hSeen, hColon, hValue, hRest]
  rfl

theorem fills_other (hName : NextName first text name key)
    (hField : fields.find? (·.name == name) = none)
    (hColon : Reads (readMark ':') key () colon) (hValue : Reads skipValue colon () tail)
    (h : Fills fields false seen start tail record seen' rest) :
    Fills fields first seen start text record seen' rest := by
  obtain ⟨shorter₁, hName⟩ := hName
  obtain ⟨shorter₂, hColon⟩ := hColon
  obtain ⟨shorter₃, hValue⟩ := hValue
  obtain ⟨⟨_, _, last, hLe⟩, hRest, rfl, rfl, hClose⟩ := h
  refine ⟨⟨_, _, last, by omega⟩, ?_, rfl, rfl, hClose⟩
  rw [members, hName]
  simp only [Bind.bind, Except.bind, hField, hColon, hValue, hRest]
  rfl

end Fills

/-- A field of a record, the texts that are its value, and what reading one of them does to the
record. -/
structure Slot (σ : Type) where
  field : Field σ
  Writes : List Char → Prop
  change : σ → σ
  decodes : ∀ text, Writes text → ∀ record, Decodes (field.read record) text (change record)

namespace Slot

variable {σ α : Type}

/-- The part of a record that a slot is for. -/
def part (slot : Slot σ) : RecordPart := ⟨slot.field.name, slot.Writes⟩

/-- A slot for a value that a decoder reads. -/
def ofDecoder (name : String) (decoder : Decoder α) (set : σ → α → σ) (Writes : List Char → Prop)
    (value : α) (h : ∀ text, Writes text → Decodes decoder text value) : Slot σ where
  field := .ofDecoder name decoder set
  Writes := Writes
  change record := set record value
  decodes text hText record := by
    refine ⟨(h text hText).starts, fun spaces rest hSpaces hRest => ?_⟩
    obtain ⟨shorter, hRead⟩ := (h text hText).reads spaces rest hSpaces hRest
    refine ⟨shorter, ?_⟩
    simp only [Field.ofDecoder, hRead]
    rfl

end Slot

/-- What a member is to a record: the value of a slot, or nothing when it has another name than all
slots. -/
def Fits {σ : Type} (slots : List (Slot σ)) (m : Member) : Option (Slot σ) → Prop
  | some slot => slot ∈ slots ∧ slot.part.Is m
  | none => IsJson m.value ∧
      ∃ name, WritesString name m.key ∧ ∀ slot ∈ slots, slot.field.name ≠ name

section Records

variable {σ : Type} {slots : List (Slot σ)} {found : Option (Slot σ)}
  {founds : List (Option (Slot σ))}

def changed (record : σ) (found : Option (Slot σ)) : σ :=
  found.elim record fun slot => slot.change record

def sighted (seen : List String) (found : Option (Slot σ)) : List String :=
  found.elim seen fun slot => slot.field.name :: seen

/-- The names of the fields that some members are for. -/
def namesOf (founds : List (Option (Slot σ))) : List String :=
  (founds.filterMap id).map (·.field.name)

theorem mem_foldl_sighted {name : String} {seen : List String} :
    name ∈ founds.foldl sighted seen ↔ name ∈ namesOf founds ∨ name ∈ seen := by
  induction founds generalizing seen with
  | nil => simp [namesOf]
  | cons found founds ih =>
    rw [List.foldl_cons, ih]
    cases found with
    | none => rfl
    | some slot =>
      simp only [sighted, Option.elim, namesOf, List.filterMap_cons, id, List.map_cons,
        List.mem_cons]
      tauto

theorem foldl_changed (founds : List (Option (Slot σ))) (record : σ) :
    founds.foldl changed record =
      (founds.filterMap id).foldl (fun record slot => slot.change record) record := by
  rw [List.foldl_filterMap]
  congr 1
  funext record found
  cases found <;> rfl

theorem find?_field (hNames : (slots.map (·.field.name)).Nodup) {slot : Slot σ}
    (h : slot ∈ slots) :
    (slots.map Slot.field).find? (·.name == slot.field.name) = some slot.field := by
  induction slots with
  | nil => cases h
  | cons other slots ih =>
    rw [List.map_cons, List.nodup_cons] at hNames
    rw [List.map_cons]
    rcases List.mem_cons.mp h with rfl | hMem
    · exact List.find?_cons_of_pos (beq_self_eq_true _)
    · have hNe : other.field.name ≠ slot.field.name := by
        intro hEq
        exact hNames.1 (hEq ▸ List.mem_map_of_mem hMem)
      rw [List.find?_cons_of_neg (by simpa using hNe)]
      exact ih hNames.2 hMem

theorem find?_field_eq_none {name : String} (h : ∀ slot ∈ slots, slot.field.name ≠ name) :
    (slots.map Slot.field).find? (·.name == name) = none := by
  rw [List.find?_eq_none]
  intro field hField
  obtain ⟨slot, hSlot, rfl⟩ := List.mem_map.mp hField
  simpa using h slot hSlot

theorem Fits.fills {m : Member} {item text tail rest : List Char} {first : Bool}
    {seen seen' : List String} {start record : σ} (hNames : (slots.map (·.field.name)).Nodup)
    (hFits : Fits slots m found) (hItem : m.Writes item) (hText : Reaches first text (item ++ tail))
    (hTail : EndsValue tail) (hFresh : ∀ slot ∈ found, slot.field.name ∉ seen)
    (h : Fills (slots.map Slot.field) false (sighted seen found) (changed start found) tail record
      seen' rest) :
    Fills (slots.map Slot.field) first seen start text record seen' rest := by
  obtain ⟨before, after, hBefore, hAfter, rfl⟩ := hItem
  have hAppend : m.key ++ (before ++ ':' :: (after ++ m.value)) ++ tail =
      m.key ++ (before ++ ':' :: (after ++ (m.value ++ tail))) := by
    simp only [List.append_assoc, List.cons_append]
  rw [hAppend] at hText
  have hColon : Reads (readMark ':') (before ++ ':' :: (after ++ (m.value ++ tail))) ()
    (after ++ (m.value ++ tail)) := reads_mark (skipSpace_append_cons hBefore rfl)
  cases found with
  | some slot =>
    obtain ⟨hSlot, hKey, hValue⟩ := hFits
    have hValue := (slot.decodes m.value hValue start).reads after tail hAfter hTail
    exact fills_field (hKey.nextName hText) (find?_field hNames hSlot) (hFresh slot rfl) hColon
      hValue h
  | none =>
    obtain ⟨hValue, name, hKey, hOther⟩ := hFits
    exact fills_other (hKey.nextName hText) (find?_field_eq_none hOther) hColon
      (hValue.reads_skipValue hAfter hTail) h

theorem fresh_of_nodup {seen : List String} (h : (namesOf (found :: founds) ++ seen).Nodup) :
    (∀ slot ∈ found, slot.field.name ∉ seen) ∧ (namesOf founds ++ sighted seen found).Nodup := by
  cases found with
  | none => exact ⟨nofun, h⟩
  | some slot =>
    have hCons : (slot.field.name :: (namesOf founds ++ seen)).Nodup := h
    constructor
    · intro _ hFound
      cases hFound
      exact fun hMem => (List.nodup_cons.mp hCons).1 (List.mem_append_right _ hMem)
    · exact List.perm_middle.nodup_iff.mpr hCons

theorem Fits.startsValue {m : Member} {item : List Char} (h : Fits slots m found)
    (hItem : m.Writes item) : StartsValue item := by
  obtain ⟨before, after, -, -, rfl⟩ := hItem
  cases found with
  | some slot => exact h.2.1.startsValue.append _
  | none =>
    obtain ⟨-, name, hKey, -⟩ := h
    exact hKey.startsValue.append _

theorem StartsValue.skipSpace_eq {item spaces rest : List Char} (h : StartsValue item)
    (hSpaces : IsSpaces spaces) : skipSpace (spaces ++ (item ++ rest)) = item ++ rest := by
  obtain ⟨c, tail, rfl, hSpace, -⟩ := h
  exact skipSpace_append_cons hSpaces hSpace

theorem Continued.fills {items : List (List Char)} {members : List Member} {text rest : List Char}
    {seen : List String} {start : σ} (h : Continued items text)
    (hNames : (slots.map (·.field.name)).Nodup)
    (hItems : List.Forall₂ Member.Writes members items)
    (hFits : List.Forall₂ (Fits slots) members founds) (hSeen : (namesOf founds ++ seen).Nodup) :
    Fills (slots.map Slot.field) false seen start (text ++ '\x7d' :: rest)
      (founds.foldl changed start) (founds.foldl sighted seen) rest := by
  induction h generalizing members founds seen start with
  | done hSpaces =>
    cases hItems
    cases hFits
    exact fills_close (skipSpace_append_cons hSpaces rfl)
  | @next before after item text items hBefore hAfter hText ih =>
    cases hItems with
    | cons hItem hItems =>
      cases hFits with
      | cons hFit hFits =>
        obtain ⟨hFresh, hSeen⟩ := fresh_of_nodup hSeen
        have hReaches : Reaches false
            (before ++ ',' :: (after ++ (item ++ text)) ++ '\x7d' :: rest)
            (item ++ (text ++ '\x7d' :: rest)) := by
          refine ⟨after ++ (item ++ (text ++ '\x7d' :: rest)), ?_, ?_⟩
          · rw [List.append_assoc, List.cons_append, skipSpace_append_cons hBefore rfl]
            simp only [List.append_assoc]
          · exact (hFit.startsValue hItem).skipSpace_eq hAfter
        exact hFit.fills hNames hItem hReaches (hText.endsValue (Or.inr rfl)) hFresh
          (ih hItems hFits hSeen)

theorem Separated.fills {items : List (List Char)} {members : List Member}
    {inner rest : List Char} {start : σ} (h : Separated items inner)
    (hNames : (slots.map (·.field.name)).Nodup)
    (hItems : List.Forall₂ Member.Writes members items)
    (hFits : List.Forall₂ (Fits slots) members founds) (hSeen : (namesOf founds).Nodup) :
    Fills (slots.map Slot.field) true [] start (inner ++ '\x7d' :: rest)
      (founds.foldl changed start) (founds.foldl sighted []) rest := by
  cases h with
  | none hSpaces =>
    cases hItems
    cases hFits
    exact fills_close (skipSpace_append_cons hSpaces rfl)
  | @some before item text items hBefore hText =>
    cases hItems with
    | cons hItem hItems =>
      cases hFits with
      | cons hFit hFits =>
        rw [← List.append_nil (namesOf _)] at hSeen
        obtain ⟨hFresh, hSeen⟩ := fresh_of_nodup hSeen
        rw [List.append_assoc, List.append_assoc]
        exact hFit.fills hNames hItem ((hFit.startsValue hItem).skipSpace_eq hBefore)
          (hText.endsValue (Or.inr rfl)) hFresh (hText.fills hNames hItems hFits hSeen)

/-- The members of a record, told apart into those that fill the slots and the others. -/
theorem exists_founds {members own others : List Member} (hPerm : members.Perm (own ++ others))
    (hOwn : List.Forall₂ RecordPart.Is (slots.map Slot.part) own)
    (hOthers : ∀ m ∈ others, IsJson m.value ∧
      ∃ name, WritesString name m.key ∧ ∀ part ∈ slots.map Slot.part, part.name ≠ name) :
    ∃ founds, List.Forall₂ (Fits slots) members founds ∧ (founds.filterMap id).Perm slots := by
  have hFilled : List.Forall₂ (Fits slots) own (slots.map some) := by
    rw [List.forall₂_map_left_iff] at hOwn
    rw [List.forall₂_map_right_iff]
    have hMem := (List.forall₂_and_left slots own).mpr ⟨fun slot h => h, hOwn⟩
    exact hMem.flip
  have hRest : List.Forall₂ (Fits slots) others (others.map fun _ => none) := by
    rw [List.forall₂_map_right_iff, List.forall₂_same]
    intro m hm
    obtain ⟨hValue, name, hKey, hNe⟩ := hOthers m hm
    exact ⟨hValue, name, hKey, fun slot hSlot => hNe slot.part (List.mem_map_of_mem hSlot)⟩
  have hBoth := List.rel_append hFilled hRest
  obtain ⟨founds, hFounds, hPerm'⟩ := List.perm_comp_forall₂ hPerm hBoth
  refine ⟨founds, hFounds, ?_⟩
  have hFilter := hPerm'.filterMap id
  simpa [List.filterMap_append, List.filterMap_map] using hFilter

/-- An object of the parts of a record is read as the record with every slot filled. -/
theorem WritesRecord.decodes {name : String} {start : σ} {text : List Char}
    (h : WritesRecord (slots.map Slot.part) text) (hNames : (slots.map (·.field.name)).Nodup)
    (hCommute : ∀ a ∈ slots, ∀ b ∈ slots, ∀ r, a.change (b.change r) = b.change (a.change r)) :
    Decodes (record name (slots.map Slot.field) start) text
      (slots.foldl (fun record slot => slot.change record) start) := by
  refine ⟨h.startsValue, fun spaces rest hSpaces _ => ?_⟩
  obtain ⟨members, own, others, ⟨items, inner, hItems, hInner, rfl⟩, hPerm, hOwn, hOthers⟩ := h
  obtain ⟨founds, hFits, hFounds⟩ := exists_founds hPerm hOwn hOthers
  have hFoundNames : (namesOf founds).Perm (slots.map (·.field.name)) := hFounds.map _
  have hFills : Fills (slots.map Slot.field) true [] start (inner ++ '\x7d' :: rest)
      (founds.foldl changed start) (founds.foldl sighted []) rest :=
    hInner.fills hNames hItems hFits (hFoundNames.nodup_iff.mpr hNames)
  have hRecord : founds.foldl changed start =
      slots.foldl (fun record slot => slot.change record) start := by
    rw [foldl_changed]
    apply hFounds.foldl_eq'
    intro a ha b hb r
    exact hCommute b (hFounds.mem_iff.mp hb) a (hFounds.mem_iff.mp ha) r
  have hSeen : (slots.map Slot.field).find? (fun f => f.name ∉ founds.foldl sighted []) = none := by
    rw [List.find?_eq_none]
    intro field hField
    obtain ⟨slot, hSlot, rfl⟩ := List.mem_map.mp hField
    have hMem : slot.field.name ∈ namesOf founds :=
      hFoundNames.mem_iff.mpr (List.mem_map_of_mem hSlot)
    simp [mem_foldl_sighted.mpr (Or.inl hMem)]
  obtain ⟨⟨_, _, last, hLe⟩, hMembers, rfl, rfl, hClose⟩ := hFills
  obtain ⟨shorter, hMark⟩ := reads_mark hClose
  have hText : skipSpace (spaces ++ ('\x7b' :: (inner ++ ['\x7d']) ++ rest)) =
      '\x7b' :: (inner ++ '\x7d' :: rest) := by
    rw [List.cons_append, skipSpace_append_cons hSpaces rfl, List.append_assoc]
    rfl
  have hLt := length_lt_of_skipSpace hText
  simp only at hClose hMark shorter hLe
  refine ⟨by omega, ?_⟩
  unfold record
  split
  · rename_i hCons
    cases hText.symm.trans hCons
  · rename_i hCons
    cases hText.symm.trans hCons
    simp only [hMembers, Bind.bind, Except.bind, hSeen, hMark]
    rw [← hRecord]
    rfl
  · rename_i hOther
    exact absurd hText (hOther _)

/-- A record whose fields and members are those of some slots is read as what the slots make of the
record at the start. -/
theorem WritesRecord.decodes_slots {name : String} {fields : List (Field σ)}
    {parts : List RecordPart} {start value : σ} {text : List Char} (h : WritesRecord parts text)
    (hParts : slots.map Slot.part = parts) (hFields : slots.map Slot.field = fields)
    (hNames : (fields.map Field.name).Nodup)
    (hCommute : ∀ a ∈ slots, ∀ b ∈ slots, ∀ r, a.change (b.change r) = b.change (a.change r))
    (hFill : slots.foldl (fun record slot => slot.change record) start = value) :
    Decodes (record name fields start) text value := by
  subst hParts hFields hFill
  rw [List.map_map] at hNames
  exact h.decodes hNames hCommute

end Records

end PostSieve.Json
