import PostSieve.Pattern.Lexeme

/-! Reading a pattern: brackets, groups, repetitions and alternatives. -/

namespace PostSieve.Pattern

/-- A part of a pattern, with the greatest number of its parts that lie within one another. -/
structure Part (α : Type) where
  value : α
  depth : Nat := 0

namespace Part

/-- A part around another. -/
def around {α β : Type} (wrap : α → β) (p : Part α) : Part β := ⟨wrap p.value, p.depth + 1⟩

/-- Some parts as one: a single one is itself, several lie within the whole. -/
def combine {α : Type} (none : α) (join : α → α → α) : List (Part α) → Part α
  | [] => ⟨none, 0⟩
  | [p] => p
  | p :: ps =>
    let rest := ps.map (·.value)
    ⟨join p.value (rest.dropLast.foldr join (rest.getLast?.getD none)),
      (ps.map (·.depth)).foldl max p.depth + 1⟩

end Part

def namedClass? (name : String) : Option NamedClass :=
  match name with
  | "alnum" => some .alnum
  | "alpha" => some .alpha
  | "ascii" => some .ascii
  | "blank" => some .blank
  | "cntrl" => some .cntrl
  | "digit" => some .digit
  | "graph" => some .graph
  | "lower" => some .lower
  | "print" => some .print
  | "punct" => some .punct
  | "space" => some .space
  | "upper" => some .upper
  | "word" => some .word
  | "xdigit" => some .xdigit
  | _ => none

/-- A class such as `[:alpha:]`, after its opening bracket. Anything else between brackets and
colons is an ordinary set. -/
def readNamedClass (text : List Char) : Option (BracketSet × List Char) :=
  match text with
  | ':' :: text =>
    let (negated, text) := match text with
      | '^' :: text => (true, text)
      | text => (false, text)
    match text.dropWhile (· != ':') with
    | ':' :: ']' :: rest => do
      let kind ← namedClass? (String.ofList (text.takeWhile (· != ':')))
      return (.named kind negated, rest)
    | _ => none
  | _ => none

/-- A single character or class within brackets. -/
def readBracketItem (verbose : Bool) (text : List Char) : Option (BracketSet × List Char) :=
  match text with
  | [] => none
  | '\\' :: text => do
    match ← readEscape verbose text with
    | (.literal c, rest) => return (.literal c, rest)
    | (.letter kind negated, rest) => return (.letter kind negated, rest)
    | (.property set negated, rest) => return (.property set negated, rest)
    | _ => none
  | c :: rest => some (.literal ⟨c, false⟩, rest)

/-- What stands after a hyphen within brackets. The sign of a comment counts as a blank here, and
its words do not. -/
def afterHyphen (verbose : Bool) (text : List Char) : List Char :=
  if verbose then
    match dropBlanks text with
    | '#' :: comment => dropBlanks comment
    | text => text
  else text

/-- Whether a hyphen, with `text` after it, stands between the ends of a range. -/
def opensRange (verbose : Bool) (text : List Char) : Bool :=
  match afterHyphen verbose text with
  | ']' :: _ => false
  | '-' :: _ => false
  | _ => true

/-- An item within brackets, or a range of characters. -/
def readBracketRange (verbose : Bool) (text : List Char) : Option (BracketSet × List Char) := do
  let (first, text) ← readBracketItem verbose text
  match skipIgnored verbose text with
  | [] => none
  | '-' :: text =>
    if opensRange verbose text then
      let (last, rest) ← readBracketItem verbose (skipIgnored verbose text)
      match first, last with
      | .literal first, .literal last =>
        if first.char ≤ last.char then some (.range first last, rest) else none
      | _, _ => none
    else some (first, '-' :: text)
  | rest => some (first, rest)

/-- The hyphens that a bracket may begin with, and the text after them. -/
def takeHyphens (verbose : Bool) : Nat → List Char → List (Part BracketSet) × List Char
  | 0, text => ([], text)
  | fuel + 1, text =>
    match text with
    | '-' :: rest =>
      let (hyphens, rest) := takeHyphens verbose fuel (skipIgnored verbose rest)
      (⟨.literal ⟨'-', false⟩, 0⟩ :: hyphens, rest)
    | _ => ([], text)

/-- What stands at the beginning of a bracket: a caret that negates it, hyphens, or a closing
bracket that belongs to the set. -/
def readBracketStart (verbose : Bool) (text : List Char) :
    Bool × List (Part BracketSet) × List Char :=
  let (negated, text) := match skipIgnored verbose text with
    | '^' :: text => (true, skipIgnored verbose text)
    | text => (false, text)
  match takeHyphens verbose text.length text with
  | ([], ']' :: rest) => (negated, [⟨.literal ⟨']', false⟩, 0⟩], rest)
  | (hyphens, rest) => (negated, hyphens, rest)

/-- The operation that two equal characters stand for. -/
def setOp? : List Char → Option (SetOp × List Char)
  | '&' :: '&' :: rest => some (.intersection, rest)
  | '-' :: '-' :: rest => some (.difference, rest)
  | '~' :: '~' :: rest => some (.symmetricDifference, rest)
  | _ => none

/-- The items read so far as one set, and as the right side of the operation in front of them, if
there is one. -/
def closeItems (left : Option (SetOp × Part BracketSet)) (items : List (Part BracketSet)) :
    Part BracketSet :=
  let set := Part.combine .empty .union items
  match left with
  | some (op, left) => ⟨.combined op left.value set.value, max left.depth set.depth + 1⟩
  | none => set

/-- The items of a bracket up to its end, after those in `items` and after an operation and its
left side. The operations associate to the left. -/
def readBracketBody (verbose : Bool) : Nat → Option (SetOp × Part BracketSet) →
    List (Part BracketSet) → List Char → Option (Part BracketSet × List Char)
  | 0, _, _, _ => none
  | fuel + 1, left, items, text =>
    match skipIgnored verbose text with
    | [] => none
    | ']' :: rest => some (closeItems left items, rest)
    | '[' :: text =>
      match readNamedClass text with
      | some (set, rest) => readBracketBody verbose fuel left (items ++ [⟨set, 0⟩]) rest
      | none => do
        let (negated, first, text) := readBracketStart verbose text
        let (set, rest) ← readBracketBody verbose fuel none first text
        readBracketBody verbose fuel left (items ++ [set.around (.bracket negated)]) rest
    | text =>
      match setOp? text with
      | some (op, rest) =>
        readBracketBody verbose fuel (some (op, closeItems left items)) [] rest
      | none => do
        let (set, rest) ← readBracketRange verbose text
        readBracketBody verbose fuel left (items ++ [⟨set, 0⟩]) rest

/-- A set in brackets, after the opening one. -/
def readBracket (verbose : Bool) (text : List Char) : Option (Part Tree × List Char) := do
  let (negated, first, text) := readBracketStart verbose text
  let (set, rest) ← readBracketBody verbose (text.length + 1) none first text
  return (set.around (.bracket negated), rest)

/-- What remains of a pattern, whether it is read in the verbose mode, and the names of the groups
so far. -/
structure Source where
  rest : List Char
  verbose : Bool := false
  names : List (List Char) := []

/-- Whether a part can be repeated: there must be one, and it must not be flags. -/
def Tree.isRepeatable : Tree → Bool
  | .empty => false
  | .switch _ => false
  | _ => true

/-- The last of some items, repeated. -/
def repeatLast (least : Nat) (most : Option Nat) (items : List (Part Tree)) :
    Option (List (Part Tree)) := do
  let last ← items.getLast?
  if last.value.isRepeatable then
    some (items.dropLast ++ [last.around (.repeated · least most)])
  else none

/-- The text after a question mark, which changes which of several matches is preferred only. -/
def dropLazy : List Char → List Char
  | '?' :: rest => rest
  | text => text

/-- What an opening parenthesis begins. -/
inductive Opening
  /-- Flags for what follows. -/
  | flags (change : FlagChange)
  | group (change : FlagChange) (captures : Bool)

/-- What begins with an opening parenthesis, after it. Assertions about the text around are not
known. -/
def readOpening (source : Source) (text : List Char) : Option (Opening × Source) :=
  let named (text : List Char) : Option (Opening × Source) := do
    let (name, rest) ← readGroupName text
    if source.names.contains name then none
    else return (.group [] true, { source with rest, names := name :: source.names })
  match skipIgnored source.verbose text with
  | '?' :: '=' :: _ => none
  | '?' :: '!' :: _ => none
  | '?' :: '<' :: '=' :: _ => none
  | '?' :: '<' :: '!' :: _ => none
  | '?' :: 'P' :: '<' :: text => named text
  | '?' :: '<' :: text => named text
  | '?' :: text => do
    match ← readFlags [] false text with
    | (change, ':', rest) => return (.group change false, { source with rest })
    | (change, _, rest) =>
      if change = [] then none else return (.flags change, { source with rest })
  | text => some (.group [] true, { source with rest := text })

/-- The verbose mode after a change of flags. -/
def Source.set (source : Source) (change : FlagChange) : Source :=
  { source with verbose := (change.value? .verbose).getD source.verbose }

/-- The alternatives in `branches` and the one made of `items`. -/
def closeBranches (branches : List (Part Tree)) (items : List (Part Tree)) : Part Tree :=
  Part.combine .empty .either (branches ++ [Part.combine .empty .concat items])

/-- The parts of a group up to its closing parenthesis, or those of a whole pattern up to its end:
after the alternatives in `branches` and after `items` of the present one. -/
def readBody : Nat → List (Part Tree) → List (Part Tree) → Source →
    Option (Part Tree × Source)
  | 0, _, _, _ => none
  | fuel + 1, branches, items, source =>
    let push (part : Part Tree) (source : Source) :=
      readBody fuel branches (items ++ [part]) source
    let repeated (least : Nat) (most : Option Nat) (rest : List Char) := do
      readBody fuel branches (← repeatLast least most items)
        { source with rest := dropLazy rest }
    match skipIgnored source.verbose source.rest with
    | [] => some (closeBranches branches items, { source with rest := [] })
    | ')' :: rest => some (closeBranches branches items, { source with rest := ')' :: rest })
    | '|' :: rest =>
      readBody fuel (branches ++ [Part.combine .empty .concat items]) [] { source with rest }
    | '(' :: text => do
      match ← readOpening source text with
      | (.flags change, inner) => push ⟨.switch change, 0⟩ (inner.set change)
      | (.group change captures, inner) =>
        let (body, inner) ← readBody fuel [] [] (inner.set change)
        match inner.rest with
        | ')' :: rest =>
          push (body.around (.group change captures))
            { rest, verbose := source.verbose, names := inner.names }
        | _ => none
    | '[' :: text => do
      let (part, rest) ← readBracket source.verbose text
      push part { source with rest }
    | '?' :: rest => repeated 0 (some 1) rest
    | '*' :: rest => repeated 0 none rest
    | '+' :: rest => repeated 1 none rest
    | '\x7b' :: text => do
      let ((least, most), rest) ← readBounds source.verbose text
      repeated least most (skipIgnored source.verbose rest)
    | '\\' :: text => do
      let (tree, rest) ← readEscape source.verbose text
      push ⟨tree, 0⟩ { source with rest }
    | '.' :: rest => push ⟨.dot, 0⟩ { source with rest }
    | '^' :: rest => push ⟨.assertion .lineStart, 0⟩ { source with rest }
    | '$' :: rest => push ⟨.assertion .lineEnd, 0⟩ { source with rest }
    | c :: rest => push ⟨.literal ⟨c, false⟩, 0⟩ { source with rest }

/-- How many parts of a pattern may lie within one another. -/
def maxDepth : Nat := 250

def Tree.read? (text : String) : Option Tree := do
  let chars := text.toList
  let (part, source) ← readBody (chars.length + 1) [] [] { rest := chars }
  if source.rest = [] ∧ part.depth ≤ maxDepth then some part.value else none

end PostSieve.Pattern
