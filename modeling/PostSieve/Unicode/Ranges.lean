import PostSieve.Unicode.CharSet

/-! The ranges that a set of characters falls into: in order, apart, and as few as there can be. -/

namespace PostSieve.Unicode

namespace Ranges

/-- Joins ranges in order, where they overlap or meet, to the one from `first` to `last` in front
of them. -/
def joinTo (first last : Nat) : List (Nat × Nat) → List (Nat × Nat)
  | [] => [(first, last)]
  | (a, b) :: rest =>
    if a ≤ last + 1 then joinTo first (max last b) rest else (first, last) :: joinTo a b rest

/-- The ranges that hold the codes of some ranges, which may be in any order. -/
def join (ranges : List (Nat × Nat)) : List (Nat × Nat) :=
  match ranges.mergeSort fun a b => a.1 ≤ b.1 with
  | [] => []
  | (a, b) :: rest => joinTo a b rest

/-- The codes from `next` on that are in none of the ranges. -/
def gapsFrom (next : Nat) : List (Nat × Nat) → List (Nat × Nat)
  | [] => if next ≤ 0x10FFFF then [(next, 0x10FFFF)] else []
  | (a, b) :: rest =>
    if next < a then (next, a - 1) :: gapsFrom (b + 1) rest else gapsFrom (b + 1) rest

/-- The codes that are in none of the ranges. -/
def gaps (ranges : List (Nat × Nat)) : List (Nat × Nat) := gapsFrom 0 ranges

/-- The codes that differ from one in the ranges in letter case at most: those that one of them
folds to are added first, then those that fold to one. -/
def caseless (folding : Folding) (ranges : List (Nat × Nat)) : List (Nat × Nat) :=
  let table := ranges.toArray
  let folded := folding.runs.flatMap fun run => run.codes.filterMap fun code =>
    if CharSet.search table code 0 table.size then some (run.image code, run.image code) else none
  let ranges := join (ranges ++ folded)
  let table := ranges.toArray
  let others := folding.runs.flatMap fun run => run.codes.filterMap fun code =>
    if CharSet.search table (run.image code) 0 table.size then some (code, code) else none
  join (ranges ++ others)

end Ranges

def CharSet.toRanges : CharSet → List (Nat × Nat)
  | .ranges table => Ranges.join table.toList
  | union a b => Ranges.join (a.toRanges ++ b.toRanges)
  | inter a b =>
    Ranges.gaps (Ranges.join (Ranges.gaps a.toRanges ++ Ranges.gaps b.toRanges))
  | compl a => Ranges.gaps a.toRanges
  | caseless folding a => Ranges.caseless folding a.toRanges

end PostSieve.Unicode
