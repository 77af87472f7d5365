import ContextFree.Derivation
import ContextFree.Grammar.Lemmas
import ContextFree.Proofs.Search
import ContextFree.Survey.Basic

/-! Reachable, leading from one non-terminal to another, and occurring in a derived form are the same
relation on the productions. -/
namespace ContextFree.Grammar

variable {g h : Grammar} {a b : NonTerminal}

theorem Step.mono (hp : g.productions ⊆ h.productions) (hs : g.Step a b) : h.Step a b := by
  obtain ⟨p, hm, he, hb⟩ := hs
  exact ⟨p, hp hm, he, hb⟩

theorem LeadsTo.mono (hp : g.productions ⊆ h.productions) (hl : g.LeadsTo a b) : h.LeadsTo a b := by
  induction hl with
  | single hs => exact .single (hs.mono hp)
  | tail _ hs ih => exact ih.tail (hs.mono hp)

theorem mem_successors_iff : b ∈ g.successors a ↔ g.Step a b := by
  simp only [successors, List.mem_flatMap, mem_alternatives, Step, and_assoc]

theorem mem_nonTerminals_of_mem_successors (h : b ∈ g.successors a) : b ∈ g.nonTerminals := by
  obtain ⟨p, hp, -, hb⟩ := mem_successors_iff.1 h
  exact mem_nonTerminals.2 (.inr ⟨p, hp, .inr hb⟩)

theorem transGen_step_iff : Relation.TransGen g.Step a b ↔ g.LeadsTo a b := by
  constructor
  · intro h
    induction h with
    | single hs => exact .single hs
    | tail _ hs ih => exact ih.tail hs
  · intro h
    induction h with
    | single hs => exact .single hs
    | tail _ hs ih => exact ih.tail hs

theorem leadsTo_iff : g.leadsTo a b = true ↔ g.LeadsTo a b := by
  rw [leadsTo, Search.hasPath_iff fun _ _ => mem_nonTerminals_of_mem_successors]
  simp only [mem_successors_iff]
  exact transGen_step_iff

theorem mem_reachable_iff : a ∈ g.reachable ↔ a = g.start ∨ g.LeadsTo g.start a := by
  rw [reachable, Search.mem_found_iff fun _ _ => mem_nonTerminals_of_mem_successors]
  simp only [Search.Reaches, mem_successors_iff]
  rw [Relation.reflTransGen_iff_eq_or_transGen]
  exact or_congr_right transGen_step_iff

theorem Occurs.step (h : g.Occurs a) (hs : g.Step a b) : g.Occurs b := by
  obtain ⟨form, hd, hm⟩ := h
  obtain ⟨p, hp, rfl, hb⟩ := hs
  obtain ⟨before, after, rfl⟩ := List.append_of_mem hm
  have he : Symbol.nonTerminal b ∈ before ++ (p.body ++ after) := by
    simp [Production.mem_nonTerminals.1 hb]
  exact ⟨_, hd.tail (.replace hp before after), he⟩

theorem occurs_start (g : Grammar) : g.Occurs g.start :=
  ⟨_, .refl _, List.mem_cons_self⟩

theorem occurs_of_leadsTo (h : g.LeadsTo g.start a) : g.Occurs a := by
  induction h with
  | single hs => exact g.occurs_start.step hs
  | tail _ hs ih => exact ih.step hs

/-- An expansion adds only non-terminals that a step leads to. -/
theorem forall_mem_of_expands {P : NonTerminal → Prop} (hP : ∀ a b, P a → g.Step a b → P b)
    {s t : List Symbol} (h : Expands g s t) (hs : ∀ a, Symbol.nonTerminal a ∈ s → P a) :
    ∀ a, Symbol.nonTerminal a ∈ t → P a := by
  cases h with
  | @replace p hp before after =>
    have hh : P p.head := hs _ (by simp)
    intro a ha
    rcases List.mem_append.1 ha with hb | ha
    · exact hs a (List.mem_append_left _ hb)
    rcases List.mem_append.1 ha with hb | ha
    · exact hP p.head a hh ⟨p, hp, rfl, Production.mem_nonTerminals.2 hb⟩
    · exact hs a (List.mem_append_right _ (List.mem_cons_of_mem _ ha))

theorem forall_mem_of_derives {P : NonTerminal → Prop} (hP : ∀ a b, P a → g.Step a b → P b)
    {s t : List Symbol} (h : Derives g s t) (hs : ∀ a, Symbol.nonTerminal a ∈ s → P a) :
    ∀ a, Symbol.nonTerminal a ∈ t → P a := by
  induction h with
  | refl => exact hs
  | tail _ he ih => exact forall_mem_of_expands hP he ih

theorem occurs_iff : g.Occurs a ↔ a = g.start ∨ g.LeadsTo g.start a := by
  constructor
  · intro h
    obtain ⟨form, hd, ha⟩ := h
    refine forall_mem_of_derives (P := fun b => b = g.start ∨ g.LeadsTo g.start b) ?_ hd ?_ a ha
    · intro b c hb hs
      right
      rcases hb with rfl | hb
      · exact .single hs
      · exact hb.tail hs
    · intro b hb
      left
      simpa using hb
  · intro h
    rcases h with rfl | h
    · exact g.occurs_start
    · exact occurs_of_leadsTo h

theorem Occurs.mem_nonTerminals (ho : g.Occurs a) : a ∈ g.nonTerminals := by
  rcases occurs_iff.1 ho with rfl | hl
  · exact Grammar.mem_nonTerminals.2 (.inl rfl)
  · cases hl with
    | single hs | tail _ hs =>
      obtain ⟨p, hp, -, hb⟩ := hs
      exact Grammar.mem_nonTerminals.2 (.inr ⟨p, hp, .inr hb⟩)

theorem mem_reachable_iff_occurs : a ∈ g.reachable ↔ g.Occurs a :=
  mem_reachable_iff.trans occurs_iff.symm

end ContextFree.Grammar
