import ContextFree.Survey.Search
import Mathlib.Logic.Relation

/-! A depth-first search takes every node that a path leads to, and no other. -/
namespace ContextFree.Search

variable {α : Type} [DecidableEq α] {next : α → List α} {unmarked nodes stack : List α} {x y z : α}

theorem forall_mem_visits {P : α → Prop} (hs : ∀ x ∈ stack, P x)
    (hn : ∀ x y, P x → y ∈ next x → P y) : ∀ z ∈ visits next unmarked stack, P z := by
  fun_induction visits next unmarked stack with
  | case1 => simp
  | case2 unmarked x rest ih =>
    have hx : P x := hs x List.mem_cons_self
    have hstack : ∀ y ∈ fresh unmarked (next x) ++ rest, P y := by
      intro y hy
      rcases List.mem_append.1 hy with hf | hr
      · exact hn x y hx (mem_fresh.1 hf).1
      · exact hs y (List.mem_cons_of_mem _ hr)
    intro z hz
    rcases List.mem_cons.1 hz with rfl | hz
    · exact hx
    · exact ih hstack z hz

theorem subset_visits (next : α → List α) (unmarked stack : List α) :
    stack ⊆ visits next unmarked stack := by
  fun_induction visits next unmarked stack with
  | case1 => simp
  | case2 unmarked x rest ih =>
    intro y hy
    rcases List.mem_cons.1 hy with rfl | hr
    · exact List.mem_cons_self
    · exact List.mem_cons_of_mem _ (ih (List.mem_append_right _ hr))

theorem mem_visits_of_mem_next (hx : x ∈ visits next unmarked stack) (hy : y ∈ next x)
    (hu : y ∈ unmarked) : y ∈ visits next unmarked stack := by
  fun_induction visits next unmarked stack with
  | case1 => simp at hx
  | case2 unmarked top rest ih =>
    apply List.mem_cons_of_mem
    -- Either the top pushes `y`, or `y` is still unmarked for the rest of the search.
    by_cases ht : y ∈ next top
    · have hf : y ∈ fresh unmarked (next top) := mem_fresh.2 ⟨ht, hu⟩
      exact subset_visits _ _ _ (List.mem_append_left _ hf)
    · rcases List.mem_cons.1 hx with rfl | hx
      · exact absurd hy ht
      · exact ih hx (mem_others.2 ⟨hu, ht⟩)

/-- Zero or more steps to a successor. -/
def Reaches (next : α → List α) : α → α → Prop :=
  Relation.ReflTransGen fun a b => b ∈ next a

theorem reaches_of_mem_visits (hz : z ∈ visits next unmarked [x]) : Reaches next x z :=
  forall_mem_visits (P := Reaches next x) (by simpa using .refl) (fun _ _ h hy => h.tail hy) z hz

/-- A search whose every successor is unmarked at first, but perhaps the node that it starts from,
takes all that it can reach. -/
theorem mem_visits_of_reaches (hu : ∀ a b, b ∈ next a → b = x ∨ b ∈ unmarked)
    (h : Reaches next x z) : z ∈ visits next unmarked [x] := by
  have hx : x ∈ visits next unmarked [x] := subset_visits _ _ _ List.mem_cons_self
  induction h with
  | refl => exact hx
  | tail _ hb ih =>
    rcases hu _ _ hb with rfl | hb'
    · exact hx
    · exact mem_visits_of_mem_next ih hb hb'

theorem mem_found_iff (hn : ∀ a b, b ∈ next a → b ∈ nodes) :
    y ∈ found next nodes x ↔ Reaches next x y := by
  constructor
  · exact reaches_of_mem_visits
  · apply mem_visits_of_reaches
    intro a b hb
    by_cases he : b = x
    · exact .inl he
    · exact .inr ((List.mem_erase_of_ne he).2 (hn a b hb))

theorem hasPath_iff (hn : ∀ a b, b ∈ next a → b ∈ nodes) :
    hasPath next nodes x y = true ↔ Relation.TransGen (fun a b => b ∈ next a) x y := by
  rw [Relation.TransGen.tail'_iff]
  simp only [hasPath, List.any_eq_true, List.contains_iff_mem]
  constructor
  · intro h
    obtain ⟨z, hz, hy⟩ := h
    exact ⟨z, reaches_of_mem_visits hz, hy⟩
  · intro h
    obtain ⟨z, hz, hy⟩ := h
    exact ⟨z, mem_visits_of_reaches (fun a b hb => .inr (hn a b hb)) hz, hy⟩

end ContextFree.Search
