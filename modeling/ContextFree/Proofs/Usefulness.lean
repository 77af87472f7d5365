import ContextFree.Proofs.Warnings

/-! What parse trees with the start at their root can use. Main statements: reachable is occurring in
a derived form; dropping what is unreachable or unterminated keeps the language; and a grammar has no
warnings exactly when everything that it mentions is defined and every production is useful. -/
namespace ContextFree

variable {g h : Grammar} {s : List Symbol} {a : NonTerminal} {p : Production}

namespace Forest

theorem nonempty_parseTree_of_mem_used (f : Forest g s) (hp : p ∈ f.used) :
    Nonempty (ParseTree g p.head) := by
  induction f with
  | nil => simp [used] at hp
  | leaf t trees ih => exact ih hp
  | node q mem children trees hc ht =>
    rcases mem_used_node.1 hp with rfl | hp | hp
    · exact ⟨.node p mem children .nil⟩
    · exact hc hp
    · exact ht hp

/-- What every step keeps goes down from the roots of the trees to all their nodes. -/
theorem of_mem_used {P : NonTerminal → Prop} (hP : ∀ a b, P a → g.Step a b → P b) (f : Forest g s)
    (hs : ∀ a, Symbol.nonTerminal a ∈ s → P a) (hp : p ∈ f.used) : P p.head := by
  induction f with
  | nil => simp [used] at hp
  | leaf t trees ih => exact ih (fun a ha => hs a (List.mem_cons_of_mem _ ha)) hp
  | node q mem children trees hc ht =>
    have hq : P q.head := hs _ List.mem_cons_self
    rcases mem_used_node.1 hp with rfl | hp | hp
    · exact hq
    · exact hc (fun a ha => hP _ _ hq ⟨q, mem, rfl, Production.mem_nonTerminals.2 ha⟩) hp
    · exact ht (fun a ha => hs a (List.mem_cons_of_mem _ ha)) hp

theorem exists_of_used_subset (f : Forest g s) (hf : f.used ⊆ h.productions) :
    ∃ f' : Forest h s, f'.yield = f.yield := by
  induction f with
  | nil => exact ⟨.nil, rfl⟩
  | leaf t trees ih =>
    obtain ⟨f', hy⟩ := ih hf
    exact ⟨.leaf t f', congrArg (t :: ·) hy⟩
  | node q mem children trees hc ht =>
    rw [used, List.cons_append, List.cons_subset, List.append_subset] at hf
    obtain ⟨hq, hfc, hft⟩ := hf
    obtain ⟨c', hyc⟩ := hc hfc
    obtain ⟨t', hyt⟩ := ht hft
    exact ⟨.node q hq c' t', congrArg₂ (· ++ ·) hyc hyt⟩

theorem nonempty_of_parseTrees (hs : ∀ a, Symbol.nonTerminal a ∈ s → Nonempty (ParseTree g a)) :
    Nonempty (Forest g s) := by
  have hx : ∀ x ∈ s, Saturation.HoldsUnder true
      (fun a => ∃ f : ParseTree g a, f.LeavesHold true) x := by
    intro x hx
    cases x with
    | terminal t => rfl
    | nonTerminal a =>
      obtain ⟨tree⟩ := hs a hx
      exact ⟨tree, .inl rfl⟩
  obtain ⟨f, -⟩ := exists_forest_of_holdsUnder hx
  exact ⟨f⟩

end Forest

/-- The survey answers for just the numbers of the grammar. -/
theorem reachable_iff_occurs (g : Grammar) :
    (∀ n, (Survey.of .reachable g).holds? n = some true ↔
      ∃ a, g.nonTerminal? n = some a ∧ (a = g.start ∨ g.Occurs a)) ∧
    (∀ n, (Survey.of .reachable g).holds? n = some false ↔
      ∃ a, g.nonTerminal? n = some a ∧ ¬ (a = g.start ∨ g.Occurs a)) ∧
    ∀ a, a ∈ g.unreachable ↔
      (∃ p ∈ g.productions, p.head = a) ∧
        ∀ form, Derives g [.nonTerminal g.start] form → Symbol.nonTerminal a ∉ form := by
  have hm : ∀ a, a ∈ g.having .reachable ↔ a = g.start ∨ g.Occurs a := by
    intro a
    rw [Grammar.having, Grammar.mem_reachable_iff_occurs, or_iff_right_of_imp]
    rintro rfl
    exact g.occurs_start
  refine ⟨fun n => ?_, fun n => ?_, fun a => ?_⟩
  · simp only [Survey.holds?_eq_some_true_iff, hm]
  · simp only [Survey.holds?_eq_some_false_iff, hm]
  · rw [Grammar.unreachable, Grammar.mem_lacking_iff, Grammar.having,
      Grammar.mem_reachable_iff_occurs, Grammar.Occurs]
    simp only [not_exists, not_and]

namespace Grammar

/-- Some finite parse tree with the start at its root uses the production. -/
def IsUseful (g : Grammar) (p : Production) : Prop :=
  ∃ t : ParseTree g g.start, p ∈ t.used

theorem IsUseful.occurs (hu : g.IsUseful p) : g.Occurs p.head := by
  obtain ⟨t, hp⟩ := hu
  refine t.of_mem_used (P := g.Occurs) (fun _ _ => Occurs.step) (fun a ha => ?_) hp
  rw [List.mem_singleton, Symbol.nonTerminal.injEq] at ha
  exact ha ▸ g.occurs_start

theorem IsUseful.nonempty_parseTree (hu : g.IsUseful p) : Nonempty (ParseTree g p.head) := by
  obtain ⟨t, hp⟩ := hu
  exact t.nonempty_parseTree_of_mem_used hp

theorem IsUseful.head_notMem_unreachable (hu : g.IsUseful p) : p.head ∉ g.unreachable := by
  rw [mem_unreachable_iff]
  exact fun hw => hw.2.2 hu.occurs

theorem IsUseful.head_notMem_unterminated (hu : g.IsUseful p) : p.head ∉ g.unterminated := by
  rw [mem_unterminated_iff, Warrants, ← not_exists, ← nonempty_parseTree_iff]
  exact fun hw => hw.2 hu.nonempty_parseTree

/-- Where no sibling is unproductive, to occur is enough: the form in which the head occurs is grown
into trees, with the production at a node, and then derived back to the start. -/
theorem isUseful_of_occurs (hprod : ∀ a, g.Occurs a → Nonempty (ParseTree g a))
    (hp : p ∈ g.productions) (ho : g.Occurs p.head) : g.IsUseful p := by
  obtain ⟨form, hd, hm⟩ := ho
  obtain ⟨before, after, rfl⟩ := List.append_of_mem hm
  have hform : ∀ a, Symbol.nonTerminal a ∈ before ++ .nonTerminal p.head :: after →
      Nonempty (ParseTree g a) := fun a ha => hprod a ⟨_, hd, ha⟩
  have hbody : ∀ a, Symbol.nonTerminal a ∈ p.body → Nonempty (ParseTree g a) := fun a ha =>
    hprod a (Occurs.step ⟨_, hd, hm⟩ ⟨p, hp, rfl, Production.mem_nonTerminals.2 ha⟩)
  obtain ⟨fb⟩ := Forest.nonempty_of_parseTrees fun a ha => hform a (List.mem_append_left _ ha)
  obtain ⟨fa⟩ := Forest.nonempty_of_parseTrees fun a ha =>
    hform a (List.mem_append_right _ (List.mem_cons_of_mem _ ha))
  obtain ⟨fc⟩ := Forest.nonempty_of_parseTrees hbody
  obtain ⟨t, -, ht⟩ := Forest.exists_of_derives hd (fb.append (.node p hp fc fa))
  exact ⟨t, ht (by simp [Forest.used])⟩

/-- The grammar without the productions of unreachable and unterminated non-terminals. -/
def pruned (g : Grammar) : Grammar :=
  ofProductions (g.productions.filter fun p =>
    !g.unreachable.contains p.head && !g.unterminated.contains p.head) g.start

theorem mem_productions_pruned_iff :
    p ∈ g.pruned.productions ↔
      p ∈ g.productions ∧ p.head ∉ g.unreachable ∧ p.head ∉ g.unterminated := by
  simp [pruned, ofProductions, normalized]

theorem IsUseful.mem_pruned (hu : g.IsUseful p) : p ∈ g.pruned.productions := by
  obtain ⟨t, hp⟩ := hu
  exact mem_productions_pruned_iff.2 ⟨t.mem_productions_of_mem_used hp,
    IsUseful.head_notMem_unreachable ⟨t, hp⟩, IsUseful.head_notMem_unterminated ⟨t, hp⟩⟩

theorem derives_pruned_iff (g : Grammar) (w : List Terminal) :
    Derives g.pruned [.nonTerminal g.pruned.start] (w.map .terminal) ↔
      Derives g [.nonTerminal g.start] (w.map .terminal) := by
  constructor
  · apply Derives.mono
    exact fun p hp => (mem_productions_pruned_iff.1 hp).1
  · intro hd
    obtain ⟨t, hw⟩ := derives_terminals_iff.1 hd
    have hu : t.used ⊆ g.pruned.productions := fun p hp => IsUseful.mem_pruned ⟨t, hp⟩
    obtain ⟨t', hw'⟩ := t.exists_of_used_subset hu
    exact derives_terminals_iff.2 ⟨t', hw'.trans hw⟩

section

variable (hw : ∀ k a, ¬ g.Warrants k a)
include hw

theorem exists_head_eq_of_not_warrants (ha : a ∈ g.nonTerminals) :
    ∃ p ∈ g.productions, p.head = a := by
  by_contra hn
  by_cases hs : a = g.start
  · exact hw .missingStart a ⟨hs, hn⟩
  · obtain ⟨p, hp, he | hb⟩ := (mem_nonTerminals.1 ha).resolve_left hs
    · exact hn ⟨p, hp, he⟩
    · exact hw .undefined a ⟨hs, ⟨p, hp, Production.mem_nonTerminals.1 hb⟩, hn⟩

theorem nonempty_parseTree_of_not_warrants (ha : a ∈ g.nonTerminals) :
    Nonempty (ParseTree g a) := by
  by_contra hn
  rw [nonempty_parseTree_iff, not_exists] at hn
  exact hw .unterminated a ⟨exists_head_eq_of_not_warrants hw ha, hn⟩

theorem isUseful_of_not_warrants (hp : p ∈ g.productions) : g.IsUseful p := by
  have ho : g.Occurs p.head := by
    by_contra hn
    exact hw .unreachable p.head ⟨⟨p, hp, rfl⟩, fun he => hn (he ▸ g.occurs_start), hn⟩
  exact isUseful_of_occurs (fun _ ho => nonempty_parseTree_of_not_warrants hw ho.mem_nonTerminals)
    hp ho

end

/-- What is defined and useful is not warned about; what was introduced may still be unknown. -/
theorem not_warrants_of_isUseful
    (hd : ∀ a ∈ g.nonTerminals, ∃ p ∈ g.productions, p.head = a)
    (hu : ∀ p ∈ g.productions, g.IsUseful p) {k : WarningKind} (hk : k ≠ .unknownIntroduced) :
    ¬ g.Warrants k a := by
  intro hw
  cases k with
  | missingStart =>
    obtain ⟨rfl, hn⟩ := hw
    exact hn (hd _ (mem_nonTerminals.2 (.inl rfl)))
  | undefined =>
    obtain ⟨-, ⟨p, hp, hb⟩, hn⟩ := hw
    exact hn (hd a (mem_nonTerminals.2 (.inr ⟨p, hp, .inr (Production.mem_nonTerminals.2 hb)⟩)))
  | unreachable =>
    obtain ⟨⟨p, hp, rfl⟩, -, hn⟩ := hw
    exact hn (hu p hp).occurs
  | unterminated =>
    obtain ⟨⟨p, hp, rfl⟩, hn⟩ := hw
    exact (nonempty_parseTree_iff.1 (hu p hp).nonempty_parseTree).elim hn
  | unknownIntroduced => exact hk rfl

theorem warnings_eq_nil_iff_useful (productions : List Production) (start : NonTerminal) :
    let g := ofProductions productions start
    g.warnings = [] ↔
      (∀ a, a = start ∨ (∃ p ∈ productions, p.head = a ∨ Symbol.nonTerminal a ∈ p.body) →
        ∃ p ∈ productions, p.head = a) ∧
      ∀ p ∈ productions, g.IsUseful p := by
  intro g
  have hm : ∀ a, a ∈ g.nonTerminals ↔
      a = start ∨ ∃ p ∈ productions, p.head = a ∨ Symbol.nonTerminal a ∈ p.body := by
    intro a
    simp only [mem_nonTerminals, Production.mem_nonTerminals]
    exact .rfl
  rw [warnings_eq_nil_iff_not_warrants]
  simp only [← hm]
  constructor
  · intro hw
    exact ⟨fun _ => exists_head_eq_of_not_warrants hw, fun _ => isUseful_of_not_warrants hw⟩
  · intro hu k a hk
    by_cases he : k = .unknownIntroduced
    · subst he
      exact absurd hk.1 List.not_mem_nil
    · exact not_warrants_of_isUseful hu.1 hu.2 he hk

end Grammar

end ContextFree
