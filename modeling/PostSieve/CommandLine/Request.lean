/-! Requests: what the arguments of the program ask for.

```text
--rule TEXT     -r TEXT    the rule, else the environment gives it
--archive PATH  -a PATH    the archive, else the environment gives it
--invert                   select the posts that do not match
--dump                     print the rule instead
--format text|json         how selected ids are printed
--help          -h
--version       -V
```

The value of a long option may also be joined by `=`, and that of a short one directly or by `=`. No
option may come twice. -/

namespace PostSieve.CommandLine

/-- How selected ids are printed. -/
inductive Format
  | text | json
deriving DecidableEq, Repr

def Format.ofName? : String → Option Format
  | "text" => some text
  | "json" => some json
  | _ => none

structure Job where
  rule : String
  archive : Option String := none
  inverted : Bool := false
  dump : Bool := false
  format : Format := .text
deriving DecidableEq, Repr

/-- What the program is asked for. -/
inductive Request
  | job (job : Job)
  | help
  | version
deriving DecidableEq, Repr

inductive Opt
  | rule | archive | invert | dump | format | help | version
deriving DecidableEq, Repr

namespace Opt

def name : Opt → String
  | rule => "rule"
  | archive => "archive"
  | invert => "invert"
  | dump => "dump"
  | format => "format"
  | help => "help"
  | version => "version"

def ofName? (name : String) : Option Opt :=
  [rule, archive, invert, dump, format, help, version].find? (·.name == name)

def ofLetter? : Char → Option Opt
  | 'r' => some rule
  | 'a' => some archive
  | 'h' => some help
  | 'V' => some version
  | _ => none

def hasValue : Opt → Bool
  | rule | archive | format => true
  | _ => false

end Opt

/-- What is wrong with the arguments. -/
inductive UsageError
  | unexpected (argument : String)
  | missingValue (option : Opt)
  | needlessValue (option : Opt)
  | badValue (option : Opt) (value : String)
  | repeated (option : Opt)
  | noRule
deriving DecidableEq, Repr

def UsageError.message : UsageError → String
  | unexpected argument => s!"unexpected argument '{argument}'"
  | missingValue option => s!"--{option.name} needs a value"
  | needlessValue option => s!"--{option.name} has no value"
  | badValue option value => s!"invalid value '{value}' for --{option.name}"
  | repeated option => s!"--{option.name} may be given only once"
  | noRule => "no rule given; pass --rule or set HISTWEET_RULE"

/-- The options read so far. -/
structure Settings where
  rule : Option String := none
  archive : Option String := none
  invert : Bool := false
  dump : Bool := false
  format : Option Format := none
deriving DecidableEq, Repr

namespace Settings

def has (s : Settings) : Opt → Bool
  | .rule => s.rule.isSome
  | .archive => s.archive.isSome
  | .invert => s.invert
  | .dump => s.dump
  | .format => s.format.isSome
  | .help | .version => false

/-- The settings with an option and its value, which is empty for an option without one. -/
def set (s : Settings) (option : Opt) (value : String) : Except UsageError Settings :=
  if s.has option then .error (.repeated option)
  else
    match option with
    | .rule => .ok { s with rule := value }
    | .archive =>
      if value.isEmpty then .error (.badValue .archive value) else .ok { s with archive := value }
    | .invert => .ok { s with invert := true }
    | .dump => .ok { s with dump := true }
    | .format =>
      match Format.ofName? value with
      | some format => .ok { s with format }
      | none => .error (.badValue .format value)
    | .help | .version => .ok s

end Settings

/-- An argument by its form. -/
inductive Argument
  /-- Two hyphens, after which there are no options. -/
  | stop
  | long (name : String) (value : Option String)
  /-- A letter after a hyphen, and the text after the letter. -/
  | short (letter : Char) (rest : String)
  | plain (text : String)

/-- The form of an argument. A single hyphen is plain. -/
def Argument.ofText (text : String) : Argument :=
  match text.toList with
  | ['-', '-'] => stop
  | '-' :: '-' :: body =>
    let name := body.takeWhile (· != '=')
    long (String.ofList name) <|
      if name.length < body.length then some (String.ofList (body.drop (name.length + 1))) else none
  | '-' :: letter :: rest => short letter (String.ofList rest)
  | _ => plain text

/-- The text of an argument that is the value of the option in front of it. -/
def Argument.plain? : Argument → Option String
  | plain text => some text
  | _ => none

/-- The value that is joined to a short option, if there is one. -/
def joinedValue (rest : String) : Option String :=
  match rest.toList with
  | [] => none
  | '=' :: value => some (String.ofList value)
  | _ => some rest

/-- The option that an argument names, with the value joined to it. -/
def Argument.option (text : String) : Argument → Except UsageError (Opt × Option String)
  | long name value =>
    match Opt.ofName? name with
    | some option =>
      if value.isSome && !option.hasValue then .error (.needlessValue option)
      else .ok (option, value)
    | none => .error (.unexpected text)
  | short letter rest =>
    match Opt.ofLetter? letter with
    | some option => .ok (option, if option.hasValue then joinedValue rest else none)
    | none => .error (.unexpected text)
  | stop | plain _ => .error (.unexpected text)

/-- Reads the arguments after those that `settings` come from. A request for help or for the version
is answered at once, whatever comes after it. -/
def readArguments (settings : Settings) : List String → Except UsageError (Settings ⊕ Request)
  | [] => .ok (.inl settings)
  | text :: texts =>
    match Argument.ofText text with
    | .stop =>
      match texts with
      | [] => .ok (.inl settings)
      | extra :: _ => .error (.unexpected extra)
    | argument =>
      match argument.option text with
      | .error e => .error e
      | .ok (.help, _) => .ok (.inr .help)
      | .ok (.version, _) => .ok (.inr .version)
      | .ok (option, joined) =>
        if joined.isSome || !option.hasValue then
          match settings.set option (joined.getD "") with
          | .ok settings => readArguments settings texts
          | .error e => .error e
        else
          match texts with
          | [] => .error (.missingValue option)
          | value :: texts =>
            match (Argument.ofText value).plain? with
            | none => .error (.missingValue option)
            | some value =>
              match settings.set option value with
              | .ok settings => readArguments settings texts
              | .error e => .error e

/-- Reads the arguments. What they do not give comes from `environment`: the rule from
`HISTWEET_RULE`, the archive from `HISTWEET_ARCHIVE`. -/
def Request.read (environment : String → Option String) (arguments : List String) :
    Except UsageError Request := do
  match ← readArguments {} arguments with
  | .inr request => return request
  | .inl given =>
    let setFrom (s : Settings) (option : Opt) (name : String) :=
      match s.has option, environment name with
      | false, some value => s.set option value
      | _, _ => .ok s
    let given ← setFrom given .rule "HISTWEET_RULE"
    let given ← setFrom given .archive "HISTWEET_ARCHIVE"
    match given.rule with
    | none => throw .noRule
    | some rule =>
      return .job
        { rule
          archive := given.archive
          inverted := given.invert
          dump := given.dump
          format := given.format.getD .text }

end PostSieve.CommandLine
