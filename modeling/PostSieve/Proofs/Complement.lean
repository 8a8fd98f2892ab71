import Mathlib.Data.List.FinRange
import PostSieve.Selection

/-! The use of a selection: its answers depend on the flag that was set last and on nothing else
before, and the posts selected under one flag are those left out under the other. -/

namespace PostSieve.Selection

/-! ### Operations -/

/-- What can be done with a selection. -/
inductive Operation
  | invert (inverted : Bool)
  | decide (post : Post)
  | select (posts : List Post)
  | ids (posts : List Post)

/-- What an operation gives. -/
inductive Answer
  | done
  | decision (decision : Decision)
  | posts (posts : List Post)
  | ids (ids : List UInt64)

namespace Operation

/-- The flag that an operation sets. -/
def flag? : Operation → Option Bool
  | invert inverted => some inverted
  | _ => none

/-- What an operation leaves of a selection. -/
def next (op : Operation) (s : Selection) : Selection :=
  match op with
  | invert inverted => { s with inverted }
  | _ => s

def answer (op : Operation) (s : Selection) : Answer :=
  match op with
  | invert _ => .done
  | decide post => .decision (s.decide post)
  | select posts => .posts (s.select posts)
  | ids posts => .ids (s.ids posts)

end Operation

/-- The answers to operations that are done with a selection one after another. -/
def answers : Selection → List Operation → List Answer
  | _, [] => []
  | s, op :: ops => op.answer s :: answers (op.next s) ops

/-- The flag that operations set last, or `start` if they set none. -/
def latestFlag (start : Bool) (ops : List Operation) : Bool :=
  (ops.filterMap Operation.flag?).getLast?.getD start

theorem next_eq (op : Operation) (s : Selection) :
    op.next s = { s with inverted := latestFlag s.inverted [op] } := by
  cases op <;> rfl

theorem latestFlag_cons (start : Bool) (op : Operation) (ops : List Operation) :
    latestFlag start (op :: ops) = latestFlag (latestFlag start [op]) ops := by
  cases op with
  | invert inverted => simp [latestFlag, Operation.flag?, List.getLast?_cons]
  | _ => rfl

/-- Each answer is that of the rule under the flag set last. -/
theorem answers_eq (s : Selection) (ops : List Operation) :
    s.answers ops = ops.mapIdx fun i op =>
      op.answer { s with inverted := latestFlag s.inverted (ops.take i) } := by
  induction ops generalizing s with
  | nil => rfl
  | cons op ops ih =>
    have hRest (i : Nat) : latestFlag s.inverted ((op :: ops).take (i + 1)) =
        latestFlag (op.next s).inverted (ops.take i) := by
      rw [List.take_succ_cons, latestFlag_cons, next_eq]
    simp only [answers, ih, List.mapIdx_cons, hRest, next_eq]
    rfl

/-! ### The posts selected -/

/-- Whether a list is two lists merged, each of them in its order. -/
inductive Interleave {α : Type} : List α → List α → List α → Prop
  | nil : Interleave [] [] []
  | left {x : α} {xs ys zs : List α} : Interleave xs ys zs → Interleave (x :: xs) ys (x :: zs)
  | right {x : α} {xs ys zs : List α} : Interleave xs ys zs → Interleave xs (x :: ys) (x :: zs)

theorem interleave_filter {α : Type} (p : α → Bool) (xs : List α) :
    Interleave (xs.filter p) (xs.filter (!p ·)) xs := by
  induction xs with
  | nil => exact .nil
  | cons x xs ih =>
    cases h : p x with
    | true =>
      rw [List.filter_cons_of_pos h, List.filter_cons_of_neg (by simp [h])]
      exact .left ih
    | false =>
      rw [List.filter_cons_of_neg (by simp [h]), List.filter_cons_of_pos (by simp [h])]
      exact .right ih

theorem isDelete_decide (s : Selection) (post : Post) :
    (s.decide post).isDelete = (s.rule.admits post != s.inverted) := by
  unfold decide Decision.ofBool Decision.isDelete
  cases s.rule.admits post != s.inverted <;> rfl

/-- A post is deleted under one of the two flags and kept under the other. -/
theorem isDelete_decide_true (rule : Rule) (post : Post) :
    (decide ⟨rule, true⟩ post).isDelete = !(decide ⟨rule, false⟩ post).isDelete := by
  simp only [isDelete_decide, Bool.bne_true, Bool.bne_false]

/-- The places of the posts that are to be deleted, in their order. -/
def places (s : Selection) (posts : List Post) : List (Fin posts.length) :=
  (List.finRange posts.length).filter fun i => (s.decide (posts.get i)).isDelete

section Places

variable {s : Selection} {posts : List Post}

theorem mem_places_iff {i : Fin posts.length} :
    i ∈ s.places posts ↔ (s.decide (posts.get i)).isDelete = true := by
  rw [places, List.mem_filter, and_iff_right (List.mem_finRange i)]

theorem pairwise_places : (s.places posts).Pairwise (· < ·) :=
  (List.pairwise_lt_finRange _).filter _

theorem select_eq_map_places : s.select posts = (s.places posts).map posts.get := by
  rw [select]
  conv_lhs => rw [← List.map_get_finRange posts, List.filter_map]
  rfl

end Places

/-- Inverting a selection gives its complement, however the selection has been used. Every answer
is that of the rule under the flag that was set last, which is false at first. Under each flag the
posts selected are those at the places of the posts to delete, in their order. Every place is
selected under exactly one of the two flags, and the two selections merge to the list of posts. -/
theorem selections_complement (rule : Rule) :
    (∀ ops : List Operation, answers { rule } ops = ops.mapIdx fun i op =>
      op.answer ⟨rule, latestFlag false (ops.take i)⟩) ∧
    ∀ posts : List Post, ∃ places : Bool → List (Fin posts.length),
      (∀ flag, (places flag).Pairwise (· < ·) ∧
        (∀ i, i ∈ places flag ↔ (decide ⟨rule, flag⟩ posts[i]).verdict = .delete) ∧
        select ⟨rule, flag⟩ posts = (places flag).map posts.get ∧
        ids ⟨rule, flag⟩ posts = (places flag).map fun i => posts[i].id) ∧
      (∀ i, Xor (i ∈ places false) (i ∈ places true)) ∧
      Interleave (select ⟨rule, false⟩ posts) (select ⟨rule, true⟩ posts) posts := by
  refine ⟨answers_eq { rule }, fun posts => ⟨fun flag => places ⟨rule, flag⟩ posts, fun flag => ?_,
    fun i => ?_, ?_⟩⟩
  · refine ⟨pairwise_places, fun i => mem_places_iff.trans beq_iff_eq, select_eq_map_places, ?_⟩
    rw [ids, select_eq_map_places, List.map_map]
    rfl
  · rw [mem_places_iff, mem_places_iff, isDelete_decide_true]
    cases (decide ⟨rule, false⟩ (posts.get i)).isDelete <;> simp [Xor]
  · have h := interleave_filter (fun post => (decide ⟨rule, false⟩ post).isDelete) posts
    simp only [← isDelete_decide_true] at h
    exact h

end PostSieve.Selection
