/-! Lists without repeats, in order of first appearance. -/
namespace ContextFree

variable {α : Type} [DecidableEq α]

/-- The members of a list, each once, at its first place. -/
def distinct : List α → List α
  | [] => []
  | x :: xs => x :: (distinct xs).filter (· ≠ x)

@[simp]
theorem mem_distinct {x : α} {xs : List α} : x ∈ distinct xs ↔ x ∈ xs := by
  induction xs with
  | nil => simp [distinct]
  | cons y ys ih =>
    by_cases h : x = y <;> simp [distinct, ih, h]

theorem nodup_distinct (xs : List α) : (distinct xs).Nodup := by
  induction xs with
  | nil => simp [distinct]
  | cons y ys ih =>
    rw [distinct, List.nodup_cons]
    exact ⟨by simp, ih.sublist List.filter_sublist⟩

theorem distinct_eq_self {xs : List α} (h : xs.Nodup) : distinct xs = xs := by
  induction xs with
  | nil => rfl
  | cons y ys ih =>
    obtain ⟨hy, hys⟩ := List.nodup_cons.1 h
    rw [distinct, ih hys, List.filter_eq_self.2]
    intro z hz
    simpa using fun e : z = y => hy (e ▸ hz)

theorem filter_distinct (c : α → Bool) (xs : List α) :
    (distinct xs).filter c = distinct (xs.filter c) := by
  induction xs with
  | nil => rfl
  | cons y ys ih =>
    rw [distinct, List.filter_cons, List.filter_cons, List.filter_filter]
    simp only [Bool.and_comm (c _)]
    rw [← List.filter_filter, ih]
    split
    · rfl
    · next hy =>
      rw [List.filter_eq_self]
      intro z hz
      have hc := (List.mem_filter.1 (mem_distinct.1 hz)).2
      exact decide_eq_true fun e => hy (e ▸ hc)

/-- A last member is new or changes nothing. -/
theorem distinct_concat (xs : List α) (x : α) :
    distinct (xs ++ [x]) = if x ∈ xs then distinct xs else distinct xs ++ [x] := by
  induction xs with
  | nil => rfl
  | cons y ys ih =>
    rw [List.cons_append, distinct, ih, distinct]
    by_cases hx : x ∈ ys
    · rw [if_pos hx, if_pos (List.mem_cons_of_mem y hx)]
    · rw [if_neg hx, List.filter_append]
      by_cases he : x = y
      · simp [he]
      · simp [he, hx]

theorem isPrefix_distinct_append (xs ys : List α) : distinct xs <+: distinct (xs ++ ys) := by
  induction ys generalizing xs with
  | nil => simp
  | cons y ys ih =>
    have hstep : distinct xs <+: distinct (xs ++ [y]) := by
      rw [distinct_concat]
      split
      · exact List.prefix_rfl
      · exact List.prefix_append _ _
    rw [List.append_cons]
    exact hstep.trans (ih (xs ++ [y]))

end ContextFree
