import Mathlib.Data.List.Basic

/-! Texts that show which value they stand for and where they end, and lists of such texts between
separators. -/
namespace ContextFree.Text

variable {α : Type} {S : α → Prop} {Follow Ends : List Char → Prop} {text : α → List Char}
  {sep : List Char} {xs ys : List α} {r : List Char}

/-- The first `c` of a text shows what comes before it and what comes behind. -/
theorem append_cons_inj {c : Char} {u v r s : List Char} (hu : c ∉ u) (hv : c ∉ v)
    (h : u ++ c :: r = v ++ c :: s) : u = v ∧ r = s := by
  have hl : u.length = v.length := by
    have hi := congrArg (List.idxOf c) h
    simpa [List.idxOf_append_of_notMem hu, List.idxOf_append_of_notMem hv] using hi
  obtain ⟨huv, hrs⟩ := List.append_inj h hl
  exact ⟨huv, List.tail_eq_of_cons_eq hrs⟩

/-- The text of a value with `S` can be split off what may follow it in one way only. -/
def Unambiguous (S : α → Prop) (Follow : List Char → Prop) (text : α → List Char) : Prop :=
  ∀ ⦃x y : α⦄ ⦃r s : List Char⦄, S x → S y → Follow r → Follow s →
    text x ++ r = text y ++ s → x = y ∧ r = s

/-- The texts of the values in turn, each behind a separator. -/
def separated (sep : List Char) (text : α → List Char) (xs : List α) : List Char :=
  xs.flatMap fun x => sep ++ text x

theorem separated_cons (sep : List Char) (text : α → List Char) (x : α) (xs : List α) :
    separated sep text (x :: xs) = sep ++ (text x ++ separated sep text xs) :=
  List.append_assoc ..

theorem separated_cons_append (sep : List Char) (text : α → List Char) (x : α) (xs : List α)
    (r : List Char) :
    separated sep text (x :: xs) ++ r = sep ++ (text x ++ (separated sep text xs ++ r)) := by
  rw [separated_cons, List.append_assoc, List.append_assoc]

theorem append_intercalate (sep : List Char) (text : α → List Char) (hx : xs ≠ []) :
    sep ++ sep.intercalate (xs.map text) = separated sep text xs := by
  induction xs with
  | nil => exact absurd rfl hx
  | cons x xs ih =>
    cases xs with
    | nil => simp [separated]
    | cons y ys =>
      have ih := ih (List.cons_ne_nil y ys)
      rw [List.map_cons] at ih
      rw [List.map_cons, List.map_cons, List.intercalate_cons_cons, List.append_assoc, ih,
        ← separated_cons]

theorem intercalate_eq_nil_iff (sep : List Char) (hne : ∀ x, text x ≠ []) :
    sep.intercalate (xs.map text) = [] ↔ xs = [] := by
  cases xs with
  | nil => simp
  | cons x xs =>
    have hs := append_intercalate sep text (List.cons_ne_nil x xs)
    rw [separated_cons, List.append_cancel_left_eq] at hs
    rw [hs]
    simp [hne]

/-- A separator may follow a value, and so may what ends a list, which does not itself begin like a
separator and one more value. -/
structure Separates (S : α → Prop) (Follow Ends : List Char → Prop) (text : α → List Char)
    (sep : List Char) : Prop where
  follow_sep : ∀ t, Follow (sep ++ t)
  follow_end : ∀ r, Ends r → Follow r
  end_ne : ∀ r, Ends r → ∀ x t, S x → r ≠ sep ++ (text x ++ t)

section

variable (hsep : Separates S Follow Ends text sep)
include hsep

theorem Separates.follow_separated (hr : Ends r) : Follow (separated sep text xs ++ r) := by
  cases xs with
  | nil => exact hsep.follow_end r hr
  | cons x xs =>
    rw [separated_cons_append]
    exact hsep.follow_sep _

theorem Unambiguous.separated (h : Unambiguous S Follow text) :
    Unambiguous (fun xs => ∀ x ∈ xs, S x) Ends (separated sep text) := by
  intro xs ys r s hxs hys hr hs he
  -- Induction on one list: as long as it goes on, what follows it begins with a separator.
  induction xs generalizing ys with
  | nil =>
    cases ys with
    | nil => exact ⟨rfl, he⟩
    | cons y ys =>
      rw [separated_cons_append] at he
      exact absurd he (hsep.end_ne r hr y _ (hys y List.mem_cons_self))
  | cons x xs ih =>
    obtain ⟨hx, hxt⟩ := List.forall_mem_cons.1 hxs
    rw [separated_cons_append] at he
    cases ys with
    | nil => exact absurd he.symm (hsep.end_ne s hs x _ hx)
    | cons y ys =>
      obtain ⟨hy, hyt⟩ := List.forall_mem_cons.1 hys
      rw [separated_cons_append] at he
      obtain ⟨rfl, ht⟩ := h hx hy (hsep.follow_separated hr) (hsep.follow_separated hs)
        (List.append_cancel_left he)
      obtain ⟨rfl, rfl⟩ := ih hxt hyt ht
      exact ⟨rfl, rfl⟩

theorem Unambiguous.intercalate (h : Unambiguous S Follow text) :
    Unambiguous (fun xs => xs ≠ [] ∧ ∀ x ∈ xs, S x) Ends
      fun xs : List α => sep.intercalate (xs.map text) := by
  intro xs ys r s hxs hys hr hs he
  refine h.separated hsep hxs.2 hys.2 hr hs ?_
  rw [← append_intercalate sep text hxs.1, ← append_intercalate sep text hys.1, List.append_assoc,
    List.append_assoc]
  exact congrArg (sep ++ ·) he

end

/-- No list has the text of the empty one, so with nothing behind them all lists can be told apart. -/
theorem Unambiguous.eq_of_intercalate_eq (h : Unambiguous S Follow text)
    (hsep : Separates S Follow (· = []) text sep) (hne : ∀ x, text x ≠ [])
    (hxs : ∀ x ∈ xs, S x) (hys : ∀ y ∈ ys, S y)
    (he : sep.intercalate (xs.map text) = sep.intercalate (ys.map text)) : xs = ys := by
  by_cases hx : xs = []
  · rw [(intercalate_eq_nil_iff sep hne).2 hx] at he
    exact hx.trans ((intercalate_eq_nil_iff sep hne).1 he.symm).symm
  by_cases hy : ys = []
  · rw [(intercalate_eq_nil_iff sep hne).2 hy] at he
    exact ((intercalate_eq_nil_iff sep hne).1 he).trans hy.symm
  · exact (h.intercalate hsep ⟨hx, hxs⟩ ⟨hy, hys⟩ rfl rfl (congrArg (· ++ []) he)).1

end ContextFree.Text
