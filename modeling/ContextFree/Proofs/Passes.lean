import ContextFree.Distinct
import ContextFree.Proofs.Saturation
import Mathlib.Data.List.Nodup
import Mathlib.Logic.Function.Iterate

/-! The loop of a saturation, pass by pass: every pass but the last marks another head, which bounds
how many there are, and the closure has the marks that the loop ends with. -/
namespace ContextFree.Saturation

variable {terminals c : Bool} {ps : List Production} {marked last : List NonTerminal}

theorem nodup_pass (h : marked.Nodup) : (pass terminals ps marked).Nodup := by
  induction ps generalizing marked with
  | nil => exact h
  | cons p ps ih =>
    rw [pass]
    split
    · next hf => exact ih (List.nodup_cons.2 ⟨(fires_iff.1 hf).1, h⟩)
    · exact ih h

theorem pass_eq_self (h : ∀ p ∈ ps, fires terminals marked p = false) :
    pass terminals ps marked = marked := by
  induction ps with
  | nil => rfl
  | cons p ps ih =>
    obtain ⟨hp, hps⟩ := List.forall_mem_cons.1 h
    rw [pass, hp]
    exact ih hps

/-- What the loop of a saturation holds between two passes. -/
structure Round where
  marked : List NonTerminal
  /-- Whether the pass set a mark. The loop is left after one that set none. -/
  changed : Bool
deriving DecidableEq

namespace Round

/-- One production in its turn: its head is marked if it fires. -/
def consider (terminals : Bool) (r : Round) (p : Production) : Round :=
  if fires terminals r.marked p then ⟨p.head :: r.marked, true⟩ else r

/-- One more pass over the productions, unless the loop was left. -/
def next (terminals : Bool) (ps : List Production) (r : Round) : Round :=
  if r.changed then ps.foldl (consider terminals) { r with changed := false } else r

/-- The loop after its first `k` passes, or all of them if there are fewer. The first pass is always
made. -/
def after (terminals : Bool) (ps : List Production) (k : Nat) : Round :=
  (next terminals ps)^[k] ⟨[], true⟩

theorem after_succ (terminals : Bool) (ps : List Production) (k : Nat) :
    after terminals ps (k + 1) = next terminals ps (after terminals ps k) :=
  Function.iterate_succ_apply' _ _ _

theorem foldl_consider :
    ps.foldl (consider terminals) ⟨marked, c⟩ =
      ⟨pass terminals ps marked,
        c || decide (marked.length < (pass terminals ps marked).length)⟩ := by
  induction ps generalizing marked c with
  | nil => simp [pass]
  | cons p ps ih =>
    rw [List.foldl_cons, pass, consider]
    split
    · -- A mark is set, and no later production takes it back.
      have hl := length_le_length_pass terminals ps (p.head :: marked)
      have hlt : marked.length < (pass terminals ps (p.head :: marked)).length := hl
      rw [ih, Bool.true_or, decide_eq_true hlt, Bool.or_true]
    · exact ih

theorem next_of_length_eq (h : (pass terminals ps marked).length = marked.length) :
    next terminals ps ⟨marked, true⟩ = ⟨marked, false⟩ := by
  rw [next, if_pos rfl, foldl_consider, pass_eq_self (fires_eq_false_of_length_pass_eq h),
    decide_eq_false (Nat.lt_irrefl _), Bool.or_false]

theorem next_of_length_ne (h : ¬ (pass terminals ps marked).length = marked.length) :
    next terminals ps ⟨marked, true⟩ = ⟨pass terminals ps marked, true⟩ := by
  have hlt := Nat.lt_of_le_of_ne (length_le_length_pass terminals ps marked) (Ne.symm h)
  rw [next, if_pos rfl, foldl_consider, decide_eq_true hlt, Bool.or_true]

theorem next_of_not_changed {r : Round} (h : r.changed = false) : next terminals ps r = r := by
  rw [next, h]
  rfl

/-- What every pass keeps: marks are heads and differ, and a pass that changed nothing left no
production that fires. -/
structure IsSound (terminals : Bool) (ps : List Production) (r : Round) : Prop where
  nodup : r.marked.Nodup
  heads : ∀ a ∈ r.marked, ∃ p ∈ ps, p.head = a
  ended : r.changed = false → ∀ p ∈ ps, fires terminals r.marked p = false

theorem IsSound.next {r : Round} (h : IsSound terminals ps r) :
    IsSound terminals ps (next terminals ps r) := by
  obtain ⟨marked, changed⟩ := r
  cases changed with
  | false => exact h
  | true =>
    by_cases hl : (pass terminals ps marked).length = marked.length
    · rw [next_of_length_eq hl]
      exact ⟨h.nodup, h.heads, fun _ => fires_eq_false_of_length_pass_eq hl⟩
    · have hheads : ∀ a ∈ pass terminals ps marked, ∃ p ∈ ps, p.head = a :=
        forall_mem_pass (fun p hp _ => ⟨p, hp, rfl⟩) h.heads
      rw [next_of_length_ne hl]
      exact ⟨nodup_pass h.nodup, hheads, fun hc => Bool.noConfusion hc⟩

theorem isSound_after (terminals : Bool) (ps : List Production) (k : Nat) :
    IsSound terminals ps (after terminals ps k) := by
  induction k with
  | zero => exact ⟨List.nodup_nil, by simp [after], fun h => Bool.noConfusion h⟩
  | succ k ih =>
    rw [after_succ]
    exact ih.next

theorem length_marked_lt {r : Round} (hr : r.changed = true)
    (hn : (next terminals ps r).changed = true) :
    r.marked.length < (next terminals ps r).marked.length := by
  obtain ⟨marked, changed⟩ := r
  obtain rfl : changed = true := hr
  by_cases hl : (pass terminals ps marked).length = marked.length
  · rw [next_of_length_eq hl] at hn
    exact Bool.noConfusion hn
  · rw [next_of_length_ne hl]
    exact Nat.lt_of_le_of_ne (length_le_length_pass terminals ps marked) (Ne.symm hl)

/-- A loop that is not left after `k` passes has set a mark in each. -/
theorem le_length_marked (k : Nat) (h : (after terminals ps k).changed = true) :
    k ≤ (after terminals ps k).marked.length := by
  induction k with
  | zero => exact Nat.zero_le _
  | succ k ih =>
    rw [after_succ] at h ⊢
    have hk : (after terminals ps k).changed = true := by
      by_contra hc
      rw [next_of_not_changed (Bool.eq_false_iff.2 hc)] at h
      exact hc h
    exact Nat.lt_of_le_of_lt (ih hk) (length_marked_lt hk h)

theorem IsSound.length_marked_le {r : Round} (h : IsSound terminals ps r) :
    r.marked.length ≤ (distinct (ps.map Production.head)).length := by
  refine h.nodup.length_le_of_subset fun a ha => ?_
  obtain ⟨p, hp, rfl⟩ := h.heads a ha
  exact mem_distinct.2 (List.mem_map_of_mem hp)

/-- One pass for each head and a last one are enough. -/
theorem changed_after_eq_false (terminals : Bool) (ps : List Production) :
    (after terminals ps ((distinct (ps.map Production.head)).length + 1)).changed = false := by
  by_contra hc
  have hle := le_length_marked _ (eq_true_of_ne_false hc)
  exact Nat.not_succ_le_self _ (Nat.le_trans hle (isSound_after terminals ps _).length_marked_le)

/-! The history has one entry for each pass of the loop, and the marks of the last are its marks. -/

theorem changed_iterate_next_iff (k : Nat) :
    ((next terminals ps)^[k] ⟨marked, true⟩).changed = false ↔
      (history terminals ps marked).length ≤ k := by
  induction k generalizing marked with
  | zero =>
    rw [history]
    split <;> simp
  | succ k ih =>
    rw [Function.iterate_succ_apply, history]
    split
    · next hl =>
      rw [next_of_length_eq hl, Function.iterate_fixed (next_of_not_changed rfl)]
      simp
    · next hl => rw [next_of_length_ne hl, ih, List.length_cons, Nat.succ_le_succ_iff]

/-- One pass for each production and a last one are enough too. -/
theorem changed_after_length (terminals : Bool) (ps : List Production) :
    (after terminals ps (ps.length + 1)).changed = false := by
  have hle : (distinct (ps.map Production.head)).length ≤ ps.length := by
    rw [← List.length_map (f := Production.head)]
    exact (nodup_distinct _).length_le_of_subset fun a ha => mem_distinct.1 ha
  have hheads := (changed_iterate_next_iff _).1 (changed_after_eq_false terminals ps)
  exact (changed_iterate_next_iff _).2 (Nat.le_trans hheads (Nat.succ_le_succ hle))

theorem marked_iterate_next (k : Nat)
    (h : ((next terminals ps)^[k] ⟨marked, true⟩).changed = false) :
    ((next terminals ps)^[k] ⟨marked, true⟩).marked =
      (history terminals ps marked).getLastD last := by
  induction k generalizing marked last with
  | zero => exact Bool.noConfusion h
  | succ k ih =>
    rw [Function.iterate_succ_apply] at h ⊢
    rw [history]
    split
    · next hl =>
      rw [next_of_length_eq hl, Function.iterate_fixed (next_of_not_changed rfl)]
      rfl
    · next hl =>
      rw [next_of_length_ne hl] at h ⊢
      rw [List.getLastD_cons]
      exact ih h

theorem marked_after_eq_closure (k : Nat) (h : (after terminals ps k).changed = false) :
    (after terminals ps k).marked = closure terminals ps :=
  marked_iterate_next k h

end Round

end ContextFree.Saturation
