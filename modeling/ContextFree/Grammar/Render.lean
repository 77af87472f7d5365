import ContextFree.Ascending
import ContextFree.Grammar.Basic

/-! The textual form of a grammar: one line for each head, in ascending order. -/
namespace ContextFree.Grammar

/-- The heads in ascending order, each with its distinct productions in ascending order. -/
def groups (g : Grammar) : List (NonTerminal × List Production) :=
  (ascending (g.productions.map Production.head)).map fun a =>
    (a, ascending (g.productions.filter (·.head = a)))

def renderGroup (a : NonTerminal) (alternatives : List Production) : String :=
  a.render ++ " ::= " ++ " | ".intercalate (alternatives.map Production.renderBody)

def render (g : Grammar) : String :=
  "\n".intercalate (g.groups.map fun (a, alternatives) => renderGroup a alternatives)

variable {g h : Grammar} {a : NonTerminal} {p : Production}

theorem toList_renderGroup (a : NonTerminal) (ps : List Production) :
    (renderGroup a ps).toList = a.render.toList ++ (" ::= ".toList ++
      " | ".toList.intercalate (ps.map fun p => p.renderBody.toList)) := by
  simp [renderGroup, Function.comp_def]

theorem toList_render (g : Grammar) :
    g.render.toList = "\n".toList.intercalate
      (g.groups.map fun (a, ps) => (renderGroup a ps).toList) := by
  simp [render, Function.comp_def]

theorem map_fst_groups (g : Grammar) :
    g.groups.map Prod.fst = ascending (g.productions.map Production.head) := by
  rw [groups, List.map_map]
  exact List.map_id _

theorem mem_groups_iff {ps : List Production} :
    (a, ps) ∈ g.groups ↔ (∃ p ∈ g.productions, p.head = a) ∧
      ps = ascending (g.productions.filter (·.head = a)) := by
  simp only [groups, List.mem_map, mem_ascending, Prod.mk.injEq]
  constructor
  · rintro ⟨b, hb, rfl, rfl⟩
    exact ⟨hb, rfl⟩
  · rintro ⟨ha, rfl⟩
    exact ⟨a, ha, rfl, rfl⟩

theorem mem_productions_iff_exists_group :
    p ∈ g.productions ↔ ∃ x ∈ g.groups, p ∈ x.2 := by
  constructor
  · intro hp
    exact ⟨_, mem_groups_iff.2 ⟨⟨p, hp, rfl⟩, rfl⟩, by simpa using hp⟩
  · rintro ⟨⟨a, ps⟩, hx, hp⟩
    obtain ⟨-, rfl⟩ := mem_groups_iff.1 hx
    exact (List.mem_filter.1 (mem_ascending.1 hp)).1

theorem groups_eq_iff : g.groups = h.groups ↔ ∀ p, p ∈ g.productions ↔ p ∈ h.productions := by
  constructor
  · intro he p
    rw [mem_productions_iff_exists_group, he, ← mem_productions_iff_exists_group]
  · intro hp
    have hheads : ascending (g.productions.map (·.head)) = ascending (h.productions.map (·.head)) :=
      ascending_eq_iff.2 fun a => by simp only [List.mem_map, hp]
    have halts : ∀ a, ascending (g.productions.filter (·.head = a)) =
        ascending (h.productions.filter (·.head = a)) :=
      fun a => ascending_eq_iff.2 fun p => by simp only [List.mem_filter, hp]
    simp only [groups, hheads, halts]

end ContextFree.Grammar
