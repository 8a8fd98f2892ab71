import PostSieve.Unicode.Folding

/-! Sets of characters, built from tables of ranges by the operations on sets. -/

namespace PostSieve.Unicode

/-- The value of a hexadecimal digit, if `c` is one. -/
def hexValue? (c : Char) : Option Nat :=
  if c.isDigit then some (c.toNat - '0'.toNat)
  else if 'a' ≤ c ∧ c ≤ 'f' then some (c.toNat - 'a'.toNat + 10)
  else if 'A' ≤ c ∧ c ≤ 'F' then some (c.toNat - 'A'.toNat + 10)
  else none

/-- The number that hexadecimal digits write; other characters count as zero. -/
def hexNumber (digits : List Char) : Nat :=
  digits.foldl (fun n c => 16 * n + (hexValue? c).getD 0) 0

/-- Reads one entry of a table: a code, a range of codes, or every so many codes of a range, with
the step behind a slash. -/
def rangesOfEntry (entry : List Char) : List (Nat × Nat) :=
  let first := hexNumber (entry.takeWhile (· != '-'))
  match entry.dropWhile (· != '-') with
  | _ :: rest =>
    let last := hexNumber (rest.takeWhile (· != '/'))
    match rest.dropWhile (· != '/') with
    | _ :: digits =>
      let step := hexNumber digits
      (List.range ((last - first) / step + 1)).map fun i => (first + step * i, first + step * i)
    | [] => [(first, last)]
  | [] => [(first, first)]

/-- The ranges of the entries of a table, written in hexadecimal, with blanks or line ends between
them. -/
def rangesOfText (text : String) : List (Nat × Nat) :=
  (text.toList.splitOnP fun c => c == ' ' || c == '\n').flatMap fun entry =>
    if entry.isEmpty then [] else rangesOfEntry entry

inductive CharSet
  /-- The characters whose codes lie in one of the ranges, which are in order and apart. -/
  | ranges (table : Array (Nat × Nat))
  | union (a b : CharSet)
  | inter (a b : CharSet)
  | compl (a : CharSet)
  /-- The characters that differ from one of the set in letter case at most. -/
  | caseless (folding : Folding) (a : CharSet)

namespace CharSet

def none : CharSet := .ranges #[]

def range (first last : Nat) : CharSet := .ranges #[(first, last)]

def all : CharSet := range 0 0x10FFFF

def single (c : Char) : CharSet := range c.toNat c.toNat

/-- The characters of a table, whose entries are in order and apart. -/
def ofText (text : String) : CharSet := .ranges (rangesOfText text).toArray

def any (sets : List CharSet) : CharSet :=
  match sets with
  | [] => none
  | [a] => a
  | a :: sets => .union a (any sets)

def diff (a b : CharSet) : CharSet := .inter a (.compl b)

/-- The characters in one of the two sets but not in both. -/
def symmDiff (a b : CharSet) : CharSet := .union (diff a b) (diff b a)

/-- Whether one of the ranges of `table` from index `low` up to index `high` holds `code`. -/
def search (table : Array (Nat × Nat)) (code low high : Nat) : Bool :=
  if low < high then
    let middle := (low + high) / 2
    match table[middle]? with
    | some (first, last) =>
      if code < first then search table code low middle
      else if last < code then search table code (middle + 1) high
      else true
    | .none => false
  else false
termination_by high - low

def contains : CharSet → Char → Bool
  | ranges table, c => search table c.toNat 0 table.size
  | union a b, c => a.contains c || b.contains c
  | inter a b, c => a.contains c && b.contains c
  | compl a, c => !a.contains c
  | caseless folding a, c => (folding.variants c).any a.contains

/-- Whether the set, read as a set of bytes, holds none above 127. -/
def isAscii (a : CharSet) : Bool :=
  (List.range 128).all fun i => !a.contains (Char.ofNat (128 + i))

end CharSet

end PostSieve.Unicode
