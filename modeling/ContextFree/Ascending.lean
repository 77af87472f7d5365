/-! Strictly ascending lists, as the canonical form of a finite set: a set has just one of them. -/
namespace ContextFree

variable {α : Type} [Ord α] {xs ys : List α} {x y : α}

def insertAscending (x : α) : List α → List α
  | [] => [x]
  | y :: ys =>
    match compare x y with
    | .lt => x :: y :: ys
    | .eq => y :: ys
    | .gt => y :: insertAscending x ys

/-- The members of a list, each once, in ascending order. -/
def ascending (xs : List α) : List α :=
  xs.foldr insertAscending []

def IsAscending (xs : List α) : Prop :=
  xs.Pairwise fun x y => compare x y = .lt

theorem mem_insertAscending [Std.LawfulEqOrd α] {x y : α} {ys : List α} :
    x ∈ insertAscending y ys ↔ x = y ∨ x ∈ ys := by
  induction ys with
  | nil => simp [insertAscending]
  | cons z zs ih =>
    rw [insertAscending]
    split
    · simp
    · next h =>
      have : y = z := Std.LawfulEqOrd.eq_of_compare h
      simp [this]
    · simp only [List.mem_cons, ih]
      exact ⟨fun h => by rcases h with h | h | h <;> simp [h],
        fun h => by rcases h with h | h | h <;> simp [h]⟩

@[simp]
theorem mem_ascending [Std.LawfulEqOrd α] {x : α} {xs : List α} : x ∈ ascending xs ↔ x ∈ xs := by
  induction xs with
  | nil => simp [ascending]
  | cons y ys ih => simpa [ascending, mem_insertAscending] using or_congr_right ih

variable [Std.TransOrd α]

theorem ne_of_compare_lt (h : compare x y = .lt) : x ≠ y := by
  intro he
  subst he
  have hs : compare x x = .eq := Std.ReflOrd.compare_self
  rw [h] at hs
  cases hs

theorem not_compare_lt_of_lt (h : compare x y = .lt) : ¬ compare y x = .lt := by
  intro hk
  have hg : compare x y = .gt := Std.OrientedCmp.gt_of_lt hk
  rw [h] at hg
  cases hg

theorem IsAscending.nodup (h : IsAscending xs) : xs.Nodup :=
  h.imp ne_of_compare_lt

theorem IsAscending.eq_of_mem_iff (hx : IsAscending xs) (hy : IsAscending ys)
    (h : ∀ z, z ∈ xs ↔ z ∈ ys) : xs = ys := by
  have hp : xs.Perm ys := (List.perm_ext_iff_of_nodup hx.nodup hy.nodup).2 h
  exact hp.eq_of_pairwise (fun _ _ _ _ hl hg => absurd hg (not_compare_lt_of_lt hl)) hx hy

variable [Std.LawfulEqOrd α]

theorem isAscending_insertAscending (x : α) {ys : List α} (h : IsAscending ys) :
    IsAscending (insertAscending x ys) := by
  induction ys with
  | nil => simp [insertAscending, IsAscending]
  | cons y ys ih =>
    obtain ⟨hy, hys⟩ := List.pairwise_cons.1 h
    rw [insertAscending]
    split
    · next hlt =>
      refine List.pairwise_cons.2 ⟨fun z hz => ?_, h⟩
      rcases List.mem_cons.1 hz with rfl | hz
      · exact hlt
      · exact Std.TransCmp.lt_trans hlt (hy z hz)
    · exact h
    · next hgt =>
      refine List.pairwise_cons.2 ⟨fun z hz => ?_, ih hys⟩
      rcases mem_insertAscending.1 hz with rfl | hz
      · exact Std.OrientedCmp.lt_of_gt hgt
      · exact hy z hz

theorem isAscending_ascending (xs : List α) : IsAscending (ascending xs) := by
  induction xs with
  | nil => exact List.Pairwise.nil
  | cons x xs ih => exact isAscending_insertAscending x ih

theorem ascending_eq_iff : ascending xs = ascending ys ↔ ∀ x, x ∈ xs ↔ x ∈ ys := by
  constructor
  · intro h x
    rw [← mem_ascending, h, mem_ascending]
  · intro h
    apply (isAscending_ascending xs).eq_of_mem_iff (isAscending_ascending ys)
    intro x
    rw [mem_ascending, mem_ascending]
    exact h x

/-- The canonical form of a list is the one ascending list with its members. -/
theorem eq_ascending_iff : ys = ascending xs ↔ IsAscending ys ∧ ∀ x, x ∈ ys ↔ x ∈ xs := by
  constructor
  · rintro rfl
    exact ⟨isAscending_ascending xs, fun _ => mem_ascending⟩
  · rintro ⟨hys, hmem⟩
    apply hys.eq_of_mem_iff (isAscending_ascending xs)
    intro x
    rw [hmem, mem_ascending]

end ContextFree
