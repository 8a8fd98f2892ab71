import PostSieve.CommandLine.Outcome
import PostSieve.Proofs.Json.Records
import PostSieve.Proofs.Json.Writing

/-! The program and the library: a run of the program over an archive selects what the library
selects, prints it in either format, and fails where the library fails. -/

namespace PostSieve.CommandLine

open Calendar (Instant)
open Json (Decodes Slot RecordPart WritesString WritesFlag WritesNatural WritesList WritesRecord)

/-! ### Reports -/

namespace Report

/-- The fields of a report, in order. -/
def fields : List (Json.Field Report) :=
  [.ofDecoder "rule" (Json.string "a string") fun r rule => { r with rule },
    .ofDecoder "invert" Json.boolean fun r inverted => { r with inverted },
    .ofDecoder "total" Json.natural fun r total => { r with total },
    .ofDecoder "selected" (Json.list Json.word) fun r selected => { r with selected }]

def decoder : Json.Decoder Report := Json.record "Report" fields ⟨"", false, 0, []⟩

variable (r : Report)

/-- The members of a report, with the texts that are their values. -/
def parts : List RecordPart :=
  [⟨"rule", WritesString r.rule⟩,
    ⟨"invert", WritesFlag r.inverted⟩,
    ⟨"total", WritesNatural r.total⟩,
    ⟨"selected", WritesList (fun (id : UInt64) => WritesNatural id.toNat) r.selected⟩]

/-- The fields of a report, with what is written into them. -/
def slots : List (Slot Report) :=
  [.ofDecoder "rule" (Json.string "a string") (fun r rule => { r with rule })
      (WritesString r.rule) r.rule fun _ h => h.decodes "a string",
    .ofDecoder "invert" Json.boolean (fun r inverted => { r with inverted })
      (WritesFlag r.inverted) r.inverted fun _ h => h.decodes,
    .ofDecoder "total" Json.natural (fun r total => { r with total })
      (WritesNatural r.total) r.total fun _ h => h.decodes,
    .ofDecoder "selected" (Json.list Json.word) (fun r selected => { r with selected })
      (WritesList (fun (id : UInt64) => WritesNatural id.toNat) r.selected) r.selected
      fun _ h => h.decodes_words]

theorem slots_commute : ∀ a ∈ r.slots, ∀ b ∈ r.slots, ∀ r',
    a.change (b.change r') = b.change (a.change r') := by
  intro a ha b hb r'
  simp only [slots, List.mem_cons, List.not_mem_nil, or_false] at ha hb
  rcases ha with rfl | rfl | rfl | rfl <;> rcases hb with rfl | rfl | rfl | rfl <;> rfl

def members : List (String × String) :=
  [("rule", Json.writeString r.rule), ("invert", Json.writeBool r.inverted),
    ("total", toString r.total), ("selected", Json.listBlock 2 (r.selected.map Json.writeWord))]

/-- A report is written as an object of its members. -/
theorem writes_toJson : WritesRecord r.parts r.toJson.toList := by
  have hSelected : WritesList (fun (id : UInt64) => WritesNatural id.toNat) r.selected
      (Json.listBlock 2 (r.selected.map Json.writeWord)).toList := by
    apply Json.writesList_listBlock
    rw [List.forall₂_map_right_iff, List.forall₂_same]
    exact fun _ _ => rfl
  have hMembers : List.Forall₂
      (fun (part : RecordPart) m => part.name = m.1 ∧ part.Writes m.2.toList)
      r.parts r.members := by
    simp only [parts, members, List.forall₂_cons, true_and, and_true, List.Forall₂.nil]
    exact ⟨Json.writesString_writeString r.rule, rfl, rfl, hSelected⟩
  have hJson : r.toJson = Json.objectBlock 0 ([] ++ r.members) := rfl
  rw [hJson]
  exact Json.writesRecord_objectBlock 0 hMembers nofun

/-- A report that was printed is read back. -/
theorem decode_text_json : Json.decode decoder (r.text .json).toList = .ok r := by
  have hDecodes : Decodes decoder r.toJson.toList r :=
    r.writes_toJson.decodes_slots rfl rfl (by decide) r.slots_commute rfl
  have hBreak : Json.IsSpaces ['\n'] := List.forall_mem_singleton.mpr rfl
  have hText : (r.text .json).toList = [] ++ (r.toJson.toList ++ ['\n']) := by simp [text]
  rw [hText]
  exact hDecodes.decode_eq Json.isSpaces_nil hBreak

end Report

/-! ### Runs -/

/-- What the program says of an error of selection from the archive at a path. -/
def failureOf (rule path : String) : Selection.Error → String
  | .rule cause => s!"invalid rule: {pointAt rule cause}"
  | .archive cause => s!"failed to load archive {path}: {cause.trail}"

section Runs

variable (rule path : String) (inverted : Bool) (now : Instant)
  (file : Except FileError ByteArray)

/-- The run over the archive at a path, given what reading its file gives. -/
def archiveRun (format : Format) : Outcome :=
  (Request.job { rule, archive := some path, inverted, format }).run now file

theorem fromArchive_eq :
    Selection.fromArchive { now } rule inverted file =
      match Rule.read { now } rule, Archive.load file with
      | .error e, _ => .error (.rule e)
      | .ok _, .error e => .error (.archive e)
      | .ok read, .ok posts => .ok (Selection.ids ⟨read, inverted⟩ posts) := by
  unfold Selection.fromArchive
  cases Rule.read { now } rule with
  | error e => rfl
  | ok read => cases Archive.load file <;> rfl

theorem archiveRun_eq (format : Format) :
    archiveRun rule path inverted now file format =
      match Rule.read { now } rule, Archive.load file with
      | .error e, _ => .failure (failureOf rule path (.rule e))
      | .ok _, .error e => .failure (failureOf rule path (.archive e))
      | .ok read, .ok posts => .success
          (Report.text ⟨rule, inverted, posts.length, Selection.ids ⟨read, inverted⟩ posts⟩
            format) := by
  unfold archiveRun Request.run Job.run
  dsimp only
  cases Rule.read { now } rule with
  | error e => rfl
  | ok read => cases Archive.load file <;> rfl

/-- A run over an archive prints what the library selects from it, or fails without output where the
library fails. A rule that cannot be read is what both report, whatever the file is. -/
theorem archiveRun_agrees :
    (match Selection.fromArchive { now } rule inverted file with
      | .ok ids =>
        (∀ format, (archiveRun rule path inverted now file format).exitCode = 0) ∧
        (archiveRun rule path inverted now file .text).output =
          String.join (ids.map fun id => toString id.toNat ++ "\n") ∧
        ∃ posts, Archive.load file = .ok posts ∧
          let report : Report := ⟨rule, inverted, posts.length, ids⟩
          let output := (archiveRun rule path inverted now file .json).output
          (∃ object, output.toList = object ++ ['\n'] ∧ WritesRecord report.parts object) ∧
            Json.decode Report.decoder output.toList = .ok report
      | .error e => ∀ format,
        (archiveRun rule path inverted now file format).exitCode = 1 ∧
        (archiveRun rule path inverted now file format).output = "" ∧
        (archiveRun rule path inverted now file format).errors =
          s!"Error: {failureOf rule path e}\n") ∧
    ∀ cause, Rule.read { now } rule = .error cause → ∀ file',
      Selection.fromArchive { now } rule inverted file' = .error (.rule cause) ∧
      ∀ format, archiveRun rule path inverted now file' format =
        .failure (failureOf rule path (.rule cause)) := by
  constructor
  · rw [fromArchive_eq]
    simp only [archiveRun_eq]
    cases Rule.read { now } rule with
    | error e => exact fun _ => ⟨rfl, rfl, rfl⟩
    | ok read =>
      cases Archive.load file with
      | error e => exact fun _ => ⟨rfl, rfl, rfl⟩
      | ok posts =>
        refine ⟨fun _ => rfl, rfl, posts, rfl, ⟨_, ?_, Report.writes_toJson _⟩, ?_⟩
        · show (Report.text _ .json).toList = _
          simp [Report.text]
        · exact Report.decode_text_json _
  · intro cause hRule file'
    rw [fromArchive_eq, hRule]
    refine ⟨rfl, fun format => ?_⟩
    rw [archiveRun_eq, hRule]

end Runs

end PostSieve.CommandLine
