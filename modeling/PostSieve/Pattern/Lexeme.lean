import PostSieve.Pattern.Tree
import PostSieve.Text.Blank
import PostSieve.Unicode.Newest
import PostSieve.Unicode.Query

/-! The smallest parts of written patterns: escapes, numbers, flags and names. In the verbose mode
blanks may stand within most of them, and comments from `#` to the end of the line. -/

namespace PostSieve.Pattern

open Unicode

/-- Skips what the verbose mode ignores, from within a comment on if `comment`. -/
def skipComments (comment : Bool) : List Char → List Char
  | [] => []
  | c :: text =>
    if comment then skipComments (c != '\n') text
    else if isBlank c then skipComments false text
    else if c = '#' then skipComments true text
    else c :: text

/-- Skips blanks and comments in the verbose mode. -/
def skipIgnored (verbose : Bool) (text : List Char) : List Char :=
  if verbose then skipComments false text else text

theorem length_skipComments_le : ∀ (comment : Bool) (text : List Char),
    (skipComments comment text).length ≤ text.length
  | _, [] => Nat.le_refl _
  | comment, c :: text => by
    have h := fun b => length_skipComments_le b text
    unfold skipComments
    split
    · exact Nat.le_succ_of_le (h _)
    · split
      · exact Nat.le_succ_of_le (h _)
      · split
        · exact Nat.le_succ_of_le (h _)
        · exact Nat.le_refl _

theorem length_skipIgnored_le (verbose : Bool) (text : List Char) :
    (skipIgnored verbose text).length ≤ text.length := by
  unfold skipIgnored
  split
  · exact length_skipComments_le _ _
  · exact Nat.le_refl _

/-- The longest start of the text whose characters are all `good`, without what is ignored, and the
text after it. -/
def takeGood (verbose : Bool) (good : Char → Bool) (text : List Char) : List Char × List Char :=
  match h : skipIgnored verbose text with
  | [] => ([], [])
  | c :: rest =>
    have : rest.length < text.length := by
      have := length_skipIgnored_le verbose text
      rw [h, List.length_cons] at this
      omega
    if good c then
      let (word, rest) := takeGood verbose good rest
      (c :: word, rest)
    else ([], c :: rest)
termination_by text.length

/-- What stands in front of a closing brace, and the text after the brace. -/
def takeBraced (verbose : Bool) (text : List Char) : Option (List Char × List Char) :=
  match takeGood verbose (· != '}') text with
  | (word, '}' :: rest) => some (word, rest)
  | _ => none

/-- The character with this code, if there is one. -/
def charOfCode? (code : Nat) : Option Char :=
  if code < 0xD800 ∨ (0xDFFF < code ∧ code ≤ 0x10FFFF) then some (Char.ofNat code) else none

/-- The character whose code some hexadecimal digits give. -/
def charOfHex? (digits : List Char) : Option Char :=
  if digits ≠ [] ∧ digits.all fun c => (hexValue? c).isSome then charOfCode? (hexNumber digits)
  else none

/-- Exactly `count` characters, without what is ignored, and the text after them. -/
def takeCount (verbose : Bool) : Nat → List Char → Option (List Char × List Char)
  | 0, text => some ([], text)
  | count + 1, text =>
    match skipIgnored verbose text with
    | [] => none
    | c :: rest => (takeCount verbose count rest).map fun (word, rest) => (c :: word, rest)

/-- A character by its code, after a backslash and the letter that says how many digits follow. -/
def readHex (verbose : Bool) (letter : Char) (text : List Char) :
    Option (Literal × List Char) :=
  match skipIgnored verbose text with
  | '{' :: text => do
    let (digits, rest) ← takeBraced verbose text
    let c ← charOfHex? digits
    return (⟨c, false⟩, rest)
  | text => do
    let count := if letter = 'x' then 2 else if letter = 'u' then 4 else 8
    let (digits, rest) ← takeCount verbose count text
    let c ← charOfHex? digits
    return (⟨c, letter = 'x'⟩, rest)

/-- The parts of `text` in front of `mark` and after it, if it has the mark. -/
def splitAt? (mark text : List Char) : Option (String × String) :=
  match (List.range text.length).find? fun i => mark.isPrefixOf (text.drop i) with
  | some i => some (String.ofList (text.take i), String.ofList (text.drop (i + mark.length)))
  | none => none

/-- A set of characters by its name, `upper` telling whether the capital letter asked for its
complement. -/
def readProperty (verbose upper : Bool) (text : List Char) : Option (Tree × List Char) :=
  match skipIgnored verbose text with
  | [] => none
  | '{' :: text => do
    let (name, rest) ← takeBraced verbose text
    match splitAt? ['!', '='] name with
    | some (property, value) => return (.property (← setOfValue? property value) (!upper), rest)
    | none =>
      match splitAt? [':'] name <|> splitAt? ['='] name with
      | some (property, value) => return (.property (← setOfValue? property value) upper, rest)
      | none => return (.property (← setOfName? (String.ofList name)) upper, rest)
  | c :: rest => do
    if c = '\\' then none
    else return (.property (← setOfName? (String.singleton c)) upper, rest)

/-- The letters and the hyphen, of which the names of word boundaries are made. -/
def isBoundaryChar (c : Char) : Bool := c.isAlpha || c == '-'

/-- The assertion after `\b`: a name in braces makes it one-sided, and braces that hold something
else are a repetition of it. -/
def readBoundary (verbose : Bool) (text : List Char) : Option (Assertion × List Char) :=
  match text with
  | '{' :: inner =>
    match takeGood verbose isBoundaryChar inner with
    | ([], []) => none
    | ([], _) => some (.wordBoundary, text)
    | (name, '}' :: rest) =>
      match String.ofList name with
      | "start" => some (.wordStart, rest)
      | "end" => some (.wordEnd, rest)
      | "start-half" => some (.wordStartHalf, rest)
      | "end-half" => some (.wordEndHalf, rest)
      | _ => none
    | _ => none
  | _ => some (.wordBoundary, text)

/-- The characters that mean something in a pattern. -/
def isMeta (c : Char) : Bool := "\\.+*?()|[]\x7b\x7d^$#&-~".toList.contains c

/-- The characters that stand for themselves after a backslash: ASCII without the letters, the
digits and the angle brackets. -/
def isEscapable (c : Char) : Bool :=
  isMeta c || (c.toNat < 0x80 && !c.isAlphanum && c != '<' && c != '>')

/-- What a backslash and the text after it mean. -/
def readEscape (verbose : Bool) : List Char → Option (Tree × List Char)
  | [] => none
  | c :: rest =>
    let char (code : Nat) := some (Tree.literal ⟨Char.ofNat code, false⟩, rest)
    let assertion (kind : Assertion) := some (Tree.assertion kind, rest)
    match c with
    | 'x' | 'u' | 'U' => (readHex verbose c rest).map fun (l, rest) => (.literal l, rest)
    | 'p' => readProperty verbose false rest
    | 'P' => readProperty verbose true rest
    | 'd' => some (.letter .digit false, rest)
    | 'D' => some (.letter .digit true, rest)
    | 's' => some (.letter .space false, rest)
    | 'S' => some (.letter .space true, rest)
    | 'w' => some (.letter .word false, rest)
    | 'W' => some (.letter .word true, rest)
    | 'a' => char 0x07
    | 'f' => char 0x0C
    | 't' => char 0x09
    | 'n' => char 0x0A
    | 'r' => char 0x0D
    | 'v' => char 0x0B
    | 'A' => assertion .textStart
    | 'z' => assertion .textEnd
    | 'b' => (readBoundary verbose rest).map fun (kind, rest) => (.assertion kind, rest)
    | 'B' => assertion .notWordBoundary
    | '<' => assertion .wordStart
    | '>' => assertion .wordEnd
    | _ => if isEscapable c then some (.literal ⟨c, false⟩, rest) else none

/-- A decimal number below 2^32 with blanks around it, absent if there are no digits. -/
def readDecimal (verbose : Bool) (text : List Char) : Option (Option Nat × List Char) :=
  let (digits, rest) := takeGood verbose Char.isDigit (dropBlanks text)
  let value := digits.foldl (fun n c => 10 * n + (c.toNat - '0'.toNat)) 0
  if digits = [] then some (none, dropBlanks rest)
  else if value < UInt32.size then some (some value, dropBlanks rest)
  else none

/-- The bounds of a repetition, after its opening brace and up to its closing one. -/
def readBounds (verbose : Bool) (text : List Char) :
    Option ((Nat × Option Nat) × List Char) := do
  let (least, text) ← readDecimal verbose (skipIgnored verbose text)
  let least ← least
  match text with
  | '}' :: rest => return ((least, some least), rest)
  | ',' :: text =>
    match skipIgnored verbose text with
    | '}' :: rest => return ((least, none), rest)
    | text =>
      let (most, text) ← readDecimal verbose text
      let most ← most
      match text with
      | '}' :: rest => if least ≤ most then return ((least, some most), rest) else none
      | _ => none
  | _ => none

/-- The flag that a letter stands for. -/
def flagOfLetter? : Char → Option Flag
  | 'i' => some .ignoreCase
  | 'm' => some .multiLine
  | 's' => some .dotAll
  | 'U' => some .swapGreed
  | 'u' => some .unicode
  | 'R' => some .crlf
  | 'x' => some .verbose
  | _ => none

/-- Flags up to the colon or the parenthesis after them, which is returned with the rest. From the
hyphen on, given by `off`, they are switched off; each flag may stand once, and one hyphen in front
of a flag. -/
def readFlags (change : FlagChange) (off : Bool) :
    List Char → Option (FlagChange × Char × List Char)
  | [] => none
  | c :: rest =>
    if c = ':' ∨ c = ')' then some (change, c, rest)
    else if c = '-' then
      match rest with
      | d :: _ => if off ∨ d = ':' ∨ d = ')' then none else readFlags change true rest
      | [] => none
    else do
      let flag ← flagOfLetter? c
      if (change.value? flag).isSome then none
      else readFlags (change ++ [(flag, !off)]) off rest

/-- Whether `c` may stand in the name of a group, at its beginning if `first`. -/
def isGroupNameChar (first : Bool) (c : Char) : Bool :=
  c == '_' || Newest.alphabetic.contains c ||
    (!first && (c == '.' || c == '[' || c == ']' || Newest.number.contains c))

/-- The name of a group and the text after the angle bracket that ends it. -/
def readGroupName (text : List Char) : Option (List Char × List Char) :=
  match text.takeWhile (· != '>'), text.dropWhile (· != '>') with
  | c :: name, _ :: rest =>
    if isGroupNameChar true c ∧ name.all (isGroupNameChar false) then some (c :: name, rest)
    else none
  | _, _ => none

end PostSieve.Pattern
