import ContextFree.Distinct

/-! Depth-first search of a directed graph, with a stack of nodes still to be visited. -/
namespace ContextFree.Search

variable {α : Type} [DecidableEq α]

/-- The unmarked nodes among `xs`, each once, as they lie on a stack after they are pushed in turn. -/
def fresh (unmarked xs : List α) : List α :=
  (distinct (xs.filter fun y => unmarked.contains y)).reverse

def others (unmarked xs : List α) : List α :=
  unmarked.filter fun y => !xs.contains y

@[simp]
theorem mem_fresh {unmarked xs : List α} {y : α} :
    y ∈ fresh unmarked xs ↔ y ∈ xs ∧ y ∈ unmarked := by
  simp [fresh]

@[simp]
theorem mem_others {unmarked xs : List α} {y : α} :
    y ∈ others unmarked xs ↔ y ∈ unmarked ∧ y ∉ xs := by
  simp [others]

theorem fresh_cons_of_mem {unmarked xs : List α} {y : α} (hy : y ∈ unmarked) :
    fresh unmarked (y :: xs) = fresh (others unmarked [y]) xs ++ [y] := by
  rw [fresh, fresh, List.filter_cons_of_pos (by simpa using hy), distinct, filter_distinct,
    List.filter_filter, List.reverse_cons]
  congr 3
  refine List.filter_congr fun z _ => ?_
  rw [Bool.eq_iff_iff]
  simp [and_comm]

theorem fresh_cons_of_notMem {unmarked xs : List α} {y : α} (hy : y ∉ unmarked) :
    fresh unmarked (y :: xs) = fresh unmarked xs := by
  simp [fresh, hy]

theorem others_nil (unmarked : List α) : others unmarked [] = unmarked := by
  simp [others]

theorem others_singleton {unmarked : List α} (h : unmarked.Nodup) (y : α) :
    others unmarked [y] = unmarked.erase y := by
  rw [h.erase_eq_filter]
  refine List.filter_congr fun z _ => ?_
  rw [List.contains_cons, List.contains_nil, Bool.or_false, bne]

theorem others_others (unmarked xs ys : List α) :
    others (others unmarked xs) ys = others unmarked (ys ++ xs) := by
  simp [others, List.filter_filter]

theorem others_fresh (unmarked xs : List α) :
    others unmarked (fresh unmarked xs) = others unmarked xs :=
  List.filter_congr fun y hy => by simp [hy]

theorem length_fresh_add_length_others_le (unmarked xs : List α) :
    (fresh unmarked xs).length + (others unmarked xs).length ≤ unmarked.length := by
  have hf : (fresh unmarked xs).length ≤ (unmarked.filter fun y => xs.contains y).length := by
    rw [fresh, List.length_reverse]
    exact (nodup_distinct _).length_le_of_subset fun y hy => by simpa [and_comm] using hy
  have hs := unmarked.length_eq_countP_add_countP fun y => xs.contains y
  simp only [others, ← List.countP_eq_length_filter] at hf ⊢
  simp only [Bool.not_eq_true, Bool.decide_eq_false] at hs
  omega

/-- The nodes that a search takes from its stack, in order. It takes the top of the stack, and marks
and pushes the unmarked successors of that node in turn. -/
def visits (next : α → List α) (unmarked stack : List α) : List α :=
  match stack with
  | [] => []
  | x :: rest =>
    x :: visits next (others unmarked (next x)) (fresh unmarked (next x) ++ rest)
termination_by unmarked.length + stack.length
decreasing_by
  have := length_fresh_add_length_others_le unmarked (next x)
  simp only [List.length_append, List.length_cons]
  omega

/-- The nodes that a search from `x` finds among `nodes`, `x` being marked from the first. -/
def found (next : α → List α) (nodes : List α) (x : α) : List α :=
  visits next (nodes.erase x) [x]

/-- Whether a path of one step or more leads from `x` to `y`: some node that a search from `x` takes,
`x` being unmarked at first, has `y` as a successor. -/
def hasPath (next : α → List α) (nodes : List α) (x y : α) : Bool :=
  (visits next nodes [x]).any fun z => (next z).contains y

end ContextFree.Search
