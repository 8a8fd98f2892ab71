import Mathlib.Data.List.Basic
import Mathlib.Data.List.Induction
import PostSieve.Rule.Tree

/-! The conditions of a tree from left to right. The fields that a tree tests are those of its
conditions, each listed where it is first found. -/

namespace PostSieve

/-! ### Lists without repetitions -/

section EraseDups

variable {α β : Type} [DecidableEq α] [DecidableEq β]

theorem eraseDups_concat (xs : List α) (x : α) :
    (xs ++ [x]).eraseDups = if x ∈ xs then xs.eraseDups else xs.eraseDups ++ [x] := by
  rw [List.eraseDups_append]
  by_cases hMem : x ∈ xs
  · simp [List.removeAll, hMem]
  · simp [List.removeAll, hMem, List.eraseDups_cons]

/-- Of equal elements the first one is left, and those left are in the order of the list. -/
theorem pairwise_idxOf_eraseDups (xs : List α) :
    xs.eraseDups.Pairwise fun x y => xs.idxOf x < xs.idxOf y := by
  induction xs using List.reverseRecOn with
  | nil => exact .nil
  | append_singleton xs z ih =>
    have hOld : xs.eraseDups.Pairwise fun x y => (xs ++ [z]).idxOf x < (xs ++ [z]).idxOf y := by
      refine ih.imp_of_mem fun {x y} hx hy hLt => ?_
      rwa [List.idxOf_append_of_mem (List.mem_eraseDups.mp hx),
        List.idxOf_append_of_mem (List.mem_eraseDups.mp hy)]
    rw [eraseDups_concat]
    split
    · exact hOld
    · rename_i hNew
      refine List.pairwise_append.mpr ⟨hOld, List.pairwise_singleton _ _, fun x hx y hy => ?_⟩
      obtain rfl := List.mem_singleton.mp hy
      have hMem := List.mem_eraseDups.mp hx
      rw [List.idxOf_append_of_mem hMem, List.idxOf_append_of_notMem hNew]
      exact Nat.lt_add_right _ (List.idxOf_lt_length_of_mem hMem)

theorem eraseDups_map {f : α → β} (hf : Function.Injective f) (xs : List α) :
    (xs.map f).eraseDups = xs.eraseDups.map f := by
  induction xs using List.reverseRecOn with
  | nil => rfl
  | append_singleton xs x ih =>
    rw [List.map_append, List.map_singleton, eraseDups_concat, eraseDups_concat, ih]
    simp only [List.mem_map_of_injective hf]
    split
    · rfl
    · rw [List.map_append, List.map_singleton]

end EraseDups

namespace Rule

/-- A condition of a tree. -/
structure Leaf where
  field : Field
  op : TokenKind
  tests : Criteria

/-- The conditions of a tree, from left to right. -/
def Tree.leaves : Tree → List Leaf
  | condition field op tests => [⟨field, op, tests⟩]
  | join _ left right => left.leaves ++ right.leaves

namespace Tree

/-- Adds the field of a node to those that were seen before. -/
def addField (seen : List Field) : Option Field → List Field
  | some field => if field ∈ seen then seen else seen ++ [field]
  | none => seen

theorem fields_eq_foldl (tree : Tree) :
    tree.fields = ((tree.walk 0).map (·.2.field?)).foldl addField [] := by
  rw [List.foldl_map]
  rfl

/-- A walk that gathers fields keeps each one the first time it is found. -/
theorem foldl_addField_eq_eraseDups (labels : List (Option Field)) :
    labels.foldl addField [] = (labels.filterMap id).eraseDups := by
  induction labels using List.reverseRecOn with
  | nil => rfl
  | append_singleton labels label ih =>
    rw [List.foldl_concat, ih, List.filterMap_append]
    cases label with
    | none => simp [addField]
    | some field =>
      have hLabel : [some field].filterMap id = [field] := rfl
      rw [hLabel, eraseDups_concat, addField]
      simp only [List.mem_eraseDups]

/-- The conditions of a tree come in the walk as they stand from left to right. -/
theorem filterMap_labels (tree : Tree) (depth : Nat) :
    ((tree.walk depth).map (·.2.field?)).filterMap id = tree.leaves.map Leaf.field := by
  induction tree generalizing depth with
  | condition field op tests => rfl
  | join op left right ihLeft ihRight =>
    rw [walk, List.map_cons, List.map_append, leaves, List.map_append, ← ihLeft (depth + 1),
      ← ihRight (depth + 1), ← List.filterMap_append]
    rfl

theorem fields_eq_eraseDups (tree : Tree) :
    tree.fields = (tree.leaves.map Leaf.field).eraseDups := by
  rw [fields_eq_foldl, foldl_addField_eq_eraseDups, filterMap_labels]

end Tree

end Rule

end PostSieve
