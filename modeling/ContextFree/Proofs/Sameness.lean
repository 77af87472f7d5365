import ContextFree.Grammar.Identity
import ContextFree.Proofs.NormalForm
import ContextFree.Proofs.Warnings

/-! The same grammar, however its productions are ordered, repeated and numbered, gives the same
answers about non-terminals by name, and has the same fingerprint. -/
namespace ContextFree.Grammar

variable {g h : Grammar} {a b : NonTerminal} {k : WarningKind}

theorem mem_terminals_iff {t : Terminal} :
    t ∈ g.terminals ↔ ∃ p ∈ g.productions, t ∈ p.terminals := by
  rw [terminals, mem_distinct, List.mem_flatMap]

theorem subjects_congr (hw : ∀ a, g.Warrants k a ↔ h.Warrants k a) : g.subjects k = h.subjects k := by
  apply (g.isAscending_subjects k).eq_of_mem_iff (h.isAscending_subjects k)
  intro a
  rw [mem_subjects_iff, mem_subjects_iff]
  exact hw a

section

variable (hs : g.start = h.start) (hp : ∀ p, p ∈ g.productions ↔ p ∈ h.productions)
include hp

theorem derives_congr {s t : List Symbol} : Derives g s t ↔ Derives h s t :=
  ⟨Derives.mono fun p => (hp p).1, Derives.mono fun p => (hp p).2⟩

theorem leadsTo_congr : g.LeadsTo a b ↔ h.LeadsTo a b :=
  ⟨LeadsTo.mono fun p => (hp p).1, LeadsTo.mono fun p => (hp p).2⟩

include hs

theorem occurs_congr : g.Occurs a ↔ h.Occurs a := by
  rw [occurs_iff, occurs_iff, hs, leadsTo_congr hp]

theorem warrants_congr
    (hi : k = .unknownIntroduced → (a ∈ g.introduced ↔ a ∈ h.introduced)) :
    g.Warrants k a ↔ h.Warrants k a := by
  cases k with
  | missingStart => simp only [Warrants, hs, hp]
  | undefined => simp only [Warrants, hs, hp]
  | unreachable => simp only [Warrants, hs, hp, occurs_congr hs hp]
  | unterminated => simp only [Warrants, hp, derives_congr hp]
  | unknownIntroduced => simp only [Warrants, hp, hi]

end

/-- The answers of two grammars that do not speak of numbers or of order. -/
structure Agree (g h : Grammar) : Prop where
  mentions : ∀ a, g.mentions a = h.mentions a
  isNullable : ∀ a, g.isNullable a = h.isNullable a
  leadsTo : ∀ a b, g.leadsTo a b = h.leadsTo a b
  generatesEmpty : g.generatesEmpty = h.generatesEmpty
  isNormal : g.isNormal = h.isNormal
  unreachable : g.unreachable = h.unreachable
  unterminated : g.unterminated = h.unterminated
  abnormal : ∀ p, (∃ i ∈ g.abnormalIds, g.production? i = some p) ↔
    ∃ i ∈ h.abnormalIds, h.production? i = some p
  terminals : ∀ t, t ∈ g.terminals ↔ t ∈ h.terminals
  alternatives : ∀ a p, p ∈ g.alternatives a ↔ p ∈ h.alternatives a

theorem agree_of_same (he : g.same h = true) :
    g.Agree h ∧
      ((∀ a, a ∈ g.introduced ↔ a ∈ h.introduced) → g.warnings = h.warnings) := by
  obtain ⟨hs, hp⟩ := same_iff.1 he
  refine ⟨?_, fun hi => ?_⟩
  · constructor
    · intro a
      rw [Bool.eq_iff_iff, mentions_iff, mentions_iff]
      simp only [hp]
    · intro a
      rw [Bool.eq_iff_iff, isNullable_iff, isNullable_iff, mem_nullable_iff, mem_nullable_iff]
      exact derives_congr hp
    · intro a b
      rw [Bool.eq_iff_iff, leadsTo_iff, leadsTo_iff]
      exact leadsTo_congr hp
    · rw [Bool.eq_iff_iff, generatesEmpty_iff, generatesEmpty_iff, mem_nullable_iff,
        mem_nullable_iff, hs]
      exact derives_congr hp
    · rw [Bool.eq_iff_iff, isNormal_iff, isNormal_iff]
      simp only [hs, hp]
    · exact subjects_congr (k := .unreachable) fun a => warrants_congr hs hp nofun
    · exact subjects_congr (k := .unterminated) fun a => warrants_congr hs hp nofun
    · intro p
      rw [exists_mem_abnormalIds_iff, exists_mem_abnormalIds_iff, hs, hp]
    · intro t
      rw [mem_terminals_iff, mem_terminals_iff]
      simp only [hp]
    · intro a p
      rw [mem_alternatives, mem_alternatives, hp]
  · have hk : ∀ k, g.subjects k = h.subjects k :=
      fun k => subjects_congr fun a => warrants_congr hs hp fun _ => hi a
    simp only [warnings_eq_flatMap, hk]

/-- A cycle, an undefined non-terminal and an unreachable one, in two orders with other repeats. -/
theorem agree_of_reordered :
    let p : Production := ⟨⟨"S"⟩, [.nonTerminal ⟨"A"⟩, .nonTerminal ⟨"U"⟩]⟩
    let q : Production := ⟨⟨"A"⟩, [.nonTerminal ⟨"S"⟩, .terminal ⟨"a"⟩]⟩
    let r : Production := ⟨⟨"B"⟩, []⟩
    let g := normalized [p, q, r, q] ⟨"S"⟩ [⟨"X"⟩, ⟨"A"⟩]
    let h := normalized [r, r, q, p] ⟨"S"⟩ [⟨"A"⟩, ⟨"X"⟩, ⟨"A"⟩]
    g.same h = true ∧ g.nonTerminals ≠ h.nonTerminals ∧ g.Agree h ∧ g.warnings = h.warnings := by
  intro p q r g h
  have he : g.same h = true := by decide
  have ha := agree_of_same he
  have hi : ∀ a, a ∈ g.introduced ↔ a ∈ h.introduced := by
    intro a
    simp [g, h, normalized, or_comm]
  exact ⟨he, by decide, ha.1, ha.2 hi⟩

/-- Grammars are the same just if they have one start and the same set of productions, whatever their
order, their repeats and what a normalization introduced, and just if they have one fingerprint. -/
theorem same_by_content_and_fingerprint :
    (∀ g h : Grammar, g.same h = true ↔
      g.start = h.start ∧ ∀ p, p ∈ g.productions ↔ p ∈ h.productions) ∧
    Equivalence (fun g h : Grammar => g.same h = true) ∧
    (∀ (g : Grammar) (ps : List Production), ps ⊆ g.productions →
      ((ofProductions ps g.start).same g = true ↔ ∀ p ∈ g.productions, p ∈ ps)) ∧
    (∀ g : Grammar, ∃ ps, g.fingerprint = .start g.start :: ps.map .production ∧ IsAscending ps ∧
      ∀ p, p ∈ ps ↔ p ∈ g.productions) ∧
    ∀ g h : Grammar, g.fingerprint = h.fingerprint ↔ g.same h = true :=
  ⟨fun _ _ => same_iff, equivalence_same, fun _ _ hps => same_ofProductions_iff hps,
    exists_fingerprint_eq, fun _ _ => fingerprint_eq_iff_same⟩

/-- A grammar with a repeat, made again from its two productions in the other order, and from one of
them alone. -/
theorem same_by_content_of_selections :
    let p : Production := ⟨⟨"S"⟩, [.nonTerminal ⟨"A"⟩]⟩
    let q : Production := ⟨⟨"A"⟩, []⟩
    let g := normalized [p, q, p] ⟨"S"⟩ [⟨"X"⟩]
    let h := ofProductions [q, p] ⟨"S"⟩
    [q, p] ⊆ g.productions ∧ h ≠ g ∧ h.same g = true ∧ h.fingerprint = g.fingerprint ∧
      ¬ (ofProductions [p] ⟨"S"⟩).same g = true := by
  intro p q g h
  obtain ⟨-, -, hselect, -, hprint⟩ := same_by_content_and_fingerprint
  have hall : [q, p] ⊆ g.productions := by decide
  have hsame : h.same g = true := (hselect g [q, p] hall).2 (by decide)
  refine ⟨hall, by decide, hsame, (hprint h g).2 hsame, fun hone => ?_⟩
  have hq := (hselect g [p] (by decide)).1 hone q (by decide)
  exact absurd hq (by decide)

end ContextFree.Grammar
