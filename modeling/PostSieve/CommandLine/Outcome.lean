import PostSieve.CommandLine.Request
import PostSieve.Selection

/-! Outcomes: the exit code of the program and what it prints, for each request. -/

namespace PostSieve.CommandLine

/-- What a run of the program leaves. -/
structure Outcome where
  exitCode : Nat
  output : String
  errors : String
deriving DecidableEq, Repr

namespace Outcome

/-- A run that does what it is asked for. -/
def success (output : String) : Outcome := ⟨0, output, ""⟩

/-- A run that fails without output. -/
def failure (message : String) : Outcome := ⟨1, "", s!"Error: {message}\n"⟩

/-- A run that is refused for its arguments. -/
def refusal (error : UsageError) : Outcome := ⟨2, "", s!"error: {error.message}\n"⟩

end Outcome

/-- The number of characters in front of the byte at `position`, if a character starts there or the
text ends there. -/
def column? : Nat → List Char → Option Nat
  | 0, _ => some 0
  | _ + 1, [] => none
  | position + 1, c :: text =>
    if c.utf8Size ≤ position + 1 then (column? (position + 1 - c.utf8Size) text).map (· + 1)
    else none

/-- The wording of a rule's error, the rule below it, and a mark below the place that the error is
about. -/
def pointAt (rule : String) (error : Rule.RuleError) : String :=
  let column := (column? error.position rule.toList).getD 0
  let margin := String.ofList (List.replicate column ' ')
  s!"{error.message}\n  {rule}\n  {margin}^"

/-- What was selected from an archive. -/
structure Report where
  rule : String
  inverted : Bool
  total : Nat
  selected : List UInt64
deriving DecidableEq, Repr

namespace Report

def toJson (r : Report) : String :=
  Json.objectBlock 0
    [("rule", Json.writeString r.rule),
      ("invert", Json.writeBool r.inverted),
      ("total", toString r.total),
      ("selected", Json.listBlock 2 (r.selected.map Json.writeWord))]

/-- The report as it is printed: the selected ids in lines, or all of it. -/
def text (r : Report) : Format → String
  | .text => String.join (r.selected.map fun id => Json.writeWord id ++ "\n")
  | .json => r.toJson ++ "\n"

end Report

/-- What comes of a job at the instant `now`; `file` is what reading the archive gives. The rule is
read first, then the dump is printed where it is asked for, and only then the archive matters. -/
def Job.run (job : Job) (now : Calendar.Instant) (file : Except FileError ByteArray) : Outcome :=
  match Rule.read { now } job.rule with
  | .error e => .failure s!"invalid rule: {pointAt job.rule e}"
  | .ok rule =>
    if job.dump then .success rule.tree.outline
    else
      match job.archive with
      | none => .failure "no archive given; pass --archive or set HISTWEET_ARCHIVE"
      | some path =>
        match Archive.load file with
        | .error e => .failure s!"failed to load archive {path}: {e.trail}"
        | .ok posts =>
          let selected := Selection.ids ⟨rule, job.inverted⟩ posts
          .success (Report.text ⟨job.rule, job.inverted, posts.length, selected⟩ job.format)

def helpText : String :=
  "Select tweets for deletion with a rule

Usage: histweet [OPTIONS] --rule <RULE>

Options:
  -r, --rule <RULE>        Deletion rule, e.g. 'age > 3m && likes < 10'
  -a, --archive <ARCHIVE>  Path to tweet.js from a Twitter data export
      --invert             Select tweets that do not match the rule
      --dump               Print the parse tree and exit
      --format <FORMAT>    Output format for selected tweet ids (text or json)
  -h, --help               Print help
  -V, --version            Print version
"

def Request.run (request : Request) (now : Calendar.Instant)
    (file : Except FileError ByteArray) : Outcome :=
  match request with
  | .job j => j.run now file
  | .help => .success helpText
  | .version => .success "histweet 0.1.0\n"

/-- The path of the archive that a request needs to have read. -/
def Request.path? : Request → Option String
  | .job j => if j.dump then none else j.archive
  | .help | .version => none

end PostSieve.CommandLine
