import ContextFree.Proofs.Search
import Mathlib.Data.List.Nodup
import Mathlib.Logic.Function.Iterate

/-! The loop of a depth-first search, turn by turn: what it marks, pushes and pops, how soon it is
over, and that it pops what the search visits. -/
namespace ContextFree.Search

/-- What the loop of a search holds between two turns. -/
structure Worklist (α : Type) where
  marked : List α
  stack : List α
  /-- All nodes that were pushed so far, in order. -/
  pushed : List α
  /-- All nodes that were popped so far, in order. -/
  popped : List α
  /-- Whether a goal was met. -/
  found : Bool
deriving DecidableEq

namespace Worklist

def start {α : Type} (marked : List α) (x : α) : Worklist α where
  marked := marked
  stack := [x]
  pushed := [x]
  popped := []
  found := false

def push {α : Type} (w : Worklist α) (y : α) : Worklist α :=
  { w with marked := y :: w.marked, stack := y :: w.stack, pushed := w.pushed ++ [y] }

def pop {α : Type} (w : Worklist α) (x : α) (rest : List α) : Worklist α :=
  { w with stack := rest, popped := w.popped ++ [x] }

def isOver {α : Type} (w : Worklist α) : Bool :=
  w.found || w.stack.isEmpty

theorem isOver_eq_false_iff {α : Type} {w : Worklist α} :
    w.isOver = false ↔ w.found = false ∧ ∃ x rest, w.stack = x :: rest := by
  rw [isOver, Bool.or_eq_false_iff, List.isEmpty_eq_false_iff, List.ne_nil_iff_exists_cons]

variable {α : Type} [DecidableEq α]

/-- One successor in its turn: a goal ends the search, and an unmarked node is pushed. -/
def consider (goal : α → Bool) (w : Worklist α) (y : α) : Worklist α :=
  if w.found then w
  else if goal y then { w with found := true }
  else if w.marked.contains y then w
  else w.push y

/-- One turn of the loop: it pops the top of the stack and considers the successors of that node. -/
def turn (next : α → List α) (goal : α → Bool) (w : Worklist α) : Worklist α :=
  match w.stack with
  | [] => w
  | x :: rest =>
    if w.found then w
    else (next x).foldl (consider goal) (w.pop x rest)

variable {next : α → List α} {goal : α → Bool} {w : Worklist α} {nodes first xs rest : List α}
  {x y : α}

theorem turn_of_isOver (h : w.isOver = true) : turn next goal w = w := by
  unfold turn
  cases hs : w.stack with
  | nil => rfl
  | cons x rest =>
    have hf : w.found = true := by simpa [isOver, hs] using h
    simp [hf]

theorem turn_of_stack_eq (hf : w.found = false) (hs : w.stack = x :: rest) :
    turn next goal w = (next x).foldl (consider goal) (w.pop x rest) := by
  simp [turn, hs, hf]

theorem popped_foldl_consider : (xs.foldl (consider goal) w).popped = w.popped := by
  induction xs generalizing w with
  | nil => rfl
  | cons y ys ih =>
    rw [List.foldl_cons, ih, consider]
    split_ifs <;> rfl

theorem popped_turn (hf : w.found = false) (hs : w.stack = x :: rest) :
    (turn next goal w).popped = w.popped ++ [x] := by
  rw [turn_of_stack_eq hf hs, popped_foldl_consider]
  rfl

theorem found_consider : (consider goal w y).found = (w.found || goal y) := by
  unfold consider
  split_ifs <;> simp_all [push]

theorem found_foldl_consider : (xs.foldl (consider goal) w).found = (w.found || xs.any goal) := by
  induction xs generalizing w with
  | nil => simp
  | cons y ys ih => rw [List.foldl_cons, ih, found_consider, List.any_cons, Bool.or_assoc]

theorem found_turn (hf : w.found = false) (hs : w.stack = x :: rest) :
    (turn next goal w).found = (next x).any goal := by
  rw [turn_of_stack_eq hf hs, found_foldl_consider, pop, hf, Bool.false_or]

/-! What is kept from turn to turn. -/

/-- Marks are nodes and differ. Every push marks, but those of `first`, and what was pushed is on
the stack until it is popped. -/
structure IsSound {α : Type} (nodes first : List α) (w : Worklist α) : Prop where
  nodup : w.marked.Nodup
  subset : w.marked ⊆ nodes
  pushed_eq : w.pushed = first ++ w.marked.reverse
  length_pushed : w.pushed.length = w.popped.length + w.stack.length

namespace IsSound

theorem consider (h : IsSound nodes first w) (hy : y ∈ nodes) :
    IsSound nodes first (consider goal w y) := by
  unfold Worklist.consider
  split_ifs with hf hg hm
  · exact h
  · exact ⟨h.nodup, h.subset, h.pushed_eq, h.length_pushed⟩
  · exact h
  · rw [List.contains_iff_mem] at hm
    refine ⟨List.nodup_cons.2 ⟨hm, h.nodup⟩, List.cons_subset.2 ⟨hy, h.subset⟩, ?_, ?_⟩
    · rw [push, h.pushed_eq, List.reverse_cons, List.append_assoc]
    · rw [push, List.length_append, h.length_pushed]
      rfl

theorem foldl_consider (h : IsSound nodes first w) (hxs : xs ⊆ nodes) :
    IsSound nodes first (xs.foldl (Worklist.consider goal) w) := by
  induction xs generalizing w with
  | nil => exact h
  | cons y ys ih =>
    obtain ⟨hy, hys⟩ := List.cons_subset.1 hxs
    exact ih (h.consider hy) hys

theorem turn (hn : ∀ x, next x ⊆ nodes) (h : IsSound nodes first w) :
    IsSound nodes first (turn next goal w) := by
  cases ho : w.isOver with
  | true => rwa [turn_of_isOver ho]
  | false =>
    obtain ⟨hf, x, rest, hs⟩ := isOver_eq_false_iff.1 ho
    rw [turn_of_stack_eq hf hs]
    refine foldl_consider ⟨h.nodup, h.subset, h.pushed_eq, ?_⟩ (hn x)
    have hl := h.length_pushed
    rw [hs, List.length_cons] at hl
    rw [pop, hl, List.length_append, List.length_singleton, Nat.add_right_comm, Nat.add_assoc]

theorem iterate_turn (hn : ∀ x, next x ⊆ nodes) (h : IsSound nodes first w) (k : Nat) :
    IsSound nodes first ((Worklist.turn next goal)^[k] w) := by
  induction k with
  | zero => exact h
  | succ k ih =>
    rw [Function.iterate_succ_apply']
    exact ih.turn hn

theorem length_pushed_le {α : Type} {nodes first : List α} {w : Worklist α}
    (h : IsSound nodes first w) : w.pushed.length ≤ nodes.length + first.length := by
  have hm := h.nodup.length_le_of_subset h.subset
  rw [h.pushed_eq, List.length_append, List.length_reverse]
  omega

theorem length_popped_le {α : Type} {nodes first : List α} {w : Worklist α}
    (h : IsSound nodes first w) : w.popped.length ≤ nodes.length + first.length := by
  have hle := h.length_pushed_le
  rw [h.length_pushed] at hle
  omega

theorem count_pushed_le (h : IsSound nodes first w) (y : α) :
    w.pushed.count y ≤ first.count y + 1 := by
  have hm := List.nodup_iff_count_le_one.1 h.nodup y
  rw [h.pushed_eq, List.count_append, List.count_reverse]
  omega

end IsSound

/-! How soon the loop is over. -/

/-- Each turn pops a node while the loop is not over. -/
theorem isOver_or_length_popped (next : α → List α) (goal : α → Bool) (w : Worklist α) (k : Nat) :
    ((turn next goal)^[k] w).isOver = true ∨
      ((turn next goal)^[k] w).popped.length = w.popped.length + k := by
  induction k with
  | zero => exact .inr rfl
  | succ k ih =>
    rw [Function.iterate_succ_apply']
    generalize (turn next goal)^[k] w = v at ih ⊢
    cases ho : v.isOver with
    | true =>
      left
      rwa [turn_of_isOver ho]
    | false =>
      obtain ⟨hf, x, rest, hs⟩ := isOver_eq_false_iff.1 ho
      have hl := ih.resolve_left (by simp [ho])
      right
      rw [popped_turn hf hs, List.length_append, hl]
      rfl

/-- After as many turns as there can be pushes, the loop is over. -/
theorem IsSound.isOver_iterate_turn (hn : ∀ x, next x ⊆ nodes) (h : IsSound nodes first w)
    (hp : w.popped = []) :
    ((Worklist.turn next goal)^[nodes.length + first.length] w).isOver = true := by
  rcases isOver_or_length_popped next goal w (nodes.length + first.length) with ho | hl
  · exact ho
  · have hv : IsSound nodes first ((Worklist.turn next goal)^[nodes.length + first.length] w) :=
      h.iterate_turn hn _
    generalize (Worklist.turn next goal)^[nodes.length + first.length] w = v at hl hv ⊢
    have hle := hv.length_pushed_le
    rw [hv.length_pushed, hl, hp, List.length_nil] at hle
    have hnil : v.stack = [] := List.eq_nil_of_length_eq_zero (by omega)
    rw [isOver, hnil, List.isEmpty_nil, Bool.or_true]

/-! What the loop pops is what the search visits. -/

theorem foldl_consider_eq (hf : w.found = false) (hg : ∀ y ∈ xs, goal y = false)
    (hxs : xs ⊆ nodes) :
    xs.foldl (consider goal) w =
      let new := fresh (others nodes w.marked) xs
      { w with
        marked := new ++ w.marked
        stack := new ++ w.stack
        pushed := w.pushed ++ new.reverse } := by
  induction xs generalizing w with
  | nil => simp [fresh, distinct]
  | cons y ys ih =>
    obtain ⟨hgy, hgys⟩ := List.forall_mem_cons.1 hg
    obtain ⟨hy, hys⟩ := List.cons_subset.1 hxs
    rw [List.foldl_cons]
    by_cases hm : y ∈ w.marked
    · have hc : consider goal w y = w := by simp [consider, hf, hgy, hm]
      rw [hc, ih hf hgys hys, fresh_cons_of_notMem (by simp [hm])]
    · have hc : consider goal w y = w.push y := by simp [consider, hf, hgy, hm]
      have hu : y ∈ others nodes w.marked := mem_others.2 ⟨hy, hm⟩
      rw [hc, fresh_cons_of_mem hu, others_others]
      refine (ih (w := w.push y) hf hgys hys).trans ?_
      simp [push]

/-- A turn that meets no goal is one step of the search. -/
theorem visits_eq_cons_of_turn (hn : ∀ x, next x ⊆ nodes) (hf : w.found = false)
    (hs : w.stack = x :: rest) (hg : ∀ y ∈ next x, goal y = false) :
    visits next (others nodes w.marked) w.stack =
      x :: visits next (others nodes (turn next goal w).marked) (turn next goal w).stack := by
  have hw : (w.pop x rest).found = false := hf
  rw [turn_of_stack_eq hf hs, foldl_consider_eq hw hg (hn x), ← others_others, others_fresh, hs,
    visits]
  rfl

/-- Once the loop is over, it has met a goal just if a node that the search visits has one as a
successor; else it has popped all that the search visits. -/
theorem found_and_popped_of_isOver (hn : ∀ x, next x ⊆ nodes) (hf : w.found = false) (k : Nat)
    (ho : ((turn next goal)^[k] w).isOver = true) :
    let visited := visits next (others nodes w.marked) w.stack
    ((turn next goal)^[k] w).found = (visited.any fun z => (next z).any goal) ∧
      (((turn next goal)^[k] w).found = false →
        ((turn next goal)^[k] w).popped = w.popped ++ visited) := by
  induction k generalizing w with
  | zero =>
    have hs : w.stack = [] := by simpa [isOver, hf] using ho
    simp [hs, visits, hf]
  | succ k ih =>
    intro visited
    rw [Function.iterate_succ_apply] at ho ⊢
    cases hw : w.isOver with
    | true =>
      rw [turn_of_isOver hw] at ho ⊢
      exact ih hf ho
    | false =>
      obtain ⟨-, x, rest, hs⟩ := isOver_eq_false_iff.1 hw
      have ht : (turn next goal w).found = (next x).any goal := found_turn hf hs
      cases hg : (next x).any goal with
      | true =>
        have hx : x ∈ visited := subset_visits _ _ _ (hs ▸ List.mem_cons_self)
        rw [hg] at ht
        rw [Function.iterate_fixed (turn_of_isOver (by rw [isOver, ht, Bool.true_or])), ht,
          List.any_eq_true.2 ⟨x, hx, hg⟩]
        exact ⟨rfl, fun h => Bool.noConfusion h⟩
      | false =>
        have hgs : ∀ y ∈ next x, goal y = false := by simpa using hg
        have hv : visited = _ := visits_eq_cons_of_turn hn hf hs hgs
        obtain ⟨hfound, hpopped⟩ := ih (ht.trans hg) ho
        rw [hv, List.any_cons, hg, Bool.false_or]
        refine ⟨hfound, fun h => ?_⟩
        rw [hpopped h, popped_turn hf hs, List.append_assoc, List.singleton_append]

end Worklist

end ContextFree.Search
