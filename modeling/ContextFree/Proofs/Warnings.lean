import ContextFree.Ascending
import ContextFree.Proofs.Derivability
import ContextFree.Proofs.Reachability
import Mathlib.Data.List.Nodup

/-! The warnings of a grammar are the ones that its productions warrant: each once, by kind and then
by name. -/
namespace ContextFree

variable {g : Grammar} {a : NonTerminal} {k : WarningKind}

namespace Grammar

/-- When a warning of each kind is due about a non-terminal. -/
def Warrants (g : Grammar) : WarningKind → NonTerminal → Prop
  | .missingStart, a => a = g.start ∧ ¬ ∃ p ∈ g.productions, p.head = a
  | .undefined, a => a ≠ g.start ∧ (∃ p ∈ g.productions, Symbol.nonTerminal a ∈ p.body) ∧
      ¬ ∃ p ∈ g.productions, p.head = a
  | .unreachable, a => (∃ p ∈ g.productions, p.head = a) ∧ a ≠ g.start ∧ ¬ g.Occurs a
  | .unterminated, a => (∃ p ∈ g.productions, p.head = a) ∧
      ∀ w : List Terminal, ¬ Derives g [.nonTerminal a] (w.map .terminal)
  | .unknownIntroduced, a => a ∈ g.introduced ∧
      ¬ ∃ p ∈ g.productions, p.head = a ∨ Symbol.nonTerminal a ∈ p.body

theorem mem_undefined_iff : a ∈ g.undefined ↔ g.Warrants .undefined a := by
  simp only [undefined, mem_ascending, List.mem_filter, Bool.and_eq_true, Bool.not_eq_true',
    decide_eq_true_eq, mem_nonTerminals, Production.mem_nonTerminals, Bool.eq_false_iff, ne_eq,
    isDefined_iff]
  constructor
  · intro h
    obtain ⟨hn, hs, hd⟩ := h
    obtain ⟨p, hp, he⟩ := hn.resolve_left hs
    have hb := he.resolve_left fun he => hd ⟨p, hp, he⟩
    exact ⟨hs, ⟨p, hp, hb⟩, hd⟩
  · intro h
    obtain ⟨hs, ⟨p, hp, hb⟩, hd⟩ := h
    exact ⟨.inr ⟨p, hp, .inr hb⟩, hs, hd⟩

theorem mem_unreachable_iff : a ∈ g.unreachable ↔ g.Warrants .unreachable a := by
  rw [unreachable, mem_lacking_iff, having, mem_reachable_iff_occurs]
  have hs : ¬ g.Occurs a → a ≠ g.start := by
    intro ho he
    subst he
    exact ho g.occurs_start
  constructor
  · intro h
    exact ⟨h.1, hs h.2, h.2⟩
  · intro h
    exact ⟨h.1, h.2.2⟩

theorem mem_unterminated_iff : a ∈ g.unterminated ↔ g.Warrants .unterminated a := by
  rw [unterminated, mem_lacking_iff, having, mem_productive_iff, nonempty_parseTree_iff, not_exists,
    Warrants]

theorem mem_unknownIntroduced_iff : a ∈ g.unknownIntroduced ↔ g.Warrants .unknownIntroduced a := by
  simp only [unknownIntroduced, mem_ascending, List.mem_filter, Bool.not_eq_true',
    Bool.eq_false_iff, ne_eq, mentions_iff, Production.mem_nonTerminals, Warrants]

/-- The non-terminals that the warnings of a kind are about, in order. -/
def subjects (g : Grammar) : WarningKind → List NonTerminal
  | .missingStart => if g.isDefined g.start then [] else [g.start]
  | .undefined => g.undefined
  | .unreachable => g.unreachable
  | .unterminated => g.unterminated
  | .unknownIntroduced => g.unknownIntroduced

theorem mem_subjects_iff : a ∈ g.subjects k ↔ g.Warrants k a := by
  cases k with
  | missingStart =>
    rw [subjects, Warrants, ← isDefined_iff]
    by_cases hd : g.isDefined g.start = true
    · rw [if_pos hd]
      constructor
      · intro h
        cases h
      · intro h
        exact absurd (h.1 ▸ hd) h.2
    · rw [if_neg hd, List.mem_singleton]
      constructor
      · intro h
        exact ⟨h, h ▸ hd⟩
      · intro h
        exact h.1
  | undefined => exact mem_undefined_iff
  | unreachable => exact mem_unreachable_iff
  | unterminated => exact mem_unterminated_iff
  | unknownIntroduced => exact mem_unknownIntroduced_iff

theorem isAscending_subjects (g : Grammar) (k : WarningKind) : IsAscending (g.subjects k) := by
  cases k with
  | missingStart =>
    rw [subjects]
    split
    · exact List.Pairwise.nil
    · exact List.pairwise_singleton _ _
  | undefined => exact isAscending_ascending _
  | unreachable => exact isAscending_ascending _
  | unterminated => exact isAscending_ascending _
  | unknownIntroduced => exact isAscending_ascending _

theorem warnings_eq_flatMap (g : Grammar) :
    g.warnings = WarningKind.all.flatMap fun k => (g.subjects k).map (.mk k) := by
  have hm : (if g.isDefined g.start = true then [] else [Warning.mk .missingStart g.start]) =
      (g.subjects .missingStart).map (.mk .missingStart) := by
    unfold subjects
    split <;> rfl
  rw [warnings, hm]
  simp [WarningKind.all, subjects]

theorem warnings_eq_nil_iff_not_warrants :
    g.warnings = [] ↔ ∀ k a, ¬ g.Warrants k a := by
  have hk : ∀ k, k ∈ WarningKind.all := fun k => by cases k <;> decide
  have hs : ∀ k, g.subjects k = [] ↔ ∀ a, ¬ g.Warrants k a := fun k => by
    simp only [List.eq_nil_iff_forall_not_mem, mem_subjects_iff]
  rw [warnings_eq_flatMap, List.flatMap_eq_nil_iff]
  simp only [hk, true_imp_iff, List.map_eq_nil_iff, hs]

theorem nodup_warnings (g : Grammar) : g.warnings.Nodup := by
  rw [warnings_eq_flatMap, List.nodup_flatMap]
  constructor
  · intro k _
    apply (g.isAscending_subjects k).nodup.map
    intro a b he
    exact congrArg Warning.subject he
  · have hk : WarningKind.all.Nodup := by decide
    refine hk.imp fun hne w hw hw' => ?_
    obtain ⟨a, -, rfl⟩ := List.mem_map.1 hw
    obtain ⟨b, -, he⟩ := List.mem_map.1 hw'
    exact hne (congrArg Warning.kind he).symm

end Grammar

/-- The warnings of kind `k` about the non-terminals with `P`, in strictly ascending order of name. -/
def IsBlock (k : WarningKind) (P : NonTerminal → Prop) (ws : List Warning) : Prop :=
  ∃ as, ws = as.map (.mk k) ∧ IsAscending as ∧ ∀ a, a ∈ as ↔ P a

theorem warnings_eq_blocks (productions : List Production) (start : NonTerminal)
    (introduced : List NonTerminal) :
    let g := Grammar.normalized productions start introduced
    g.warnings.Nodup ∧ ∃ block : WarningKind → List Warning,
      (∀ k, IsBlock k (g.Warrants k) (block k)) ∧
      g.warnings = block .missingStart ++ block .undefined ++ block .unreachable ++
        block .unterminated ++ block .unknownIntroduced := by
  intro g
  refine ⟨g.nodup_warnings, fun k => (g.subjects k).map (.mk k), ?_, ?_⟩
  · intro k
    exact ⟨g.subjects k, rfl, g.isAscending_subjects k, fun _ => Grammar.mem_subjects_iff⟩
  · rw [Grammar.warnings_eq_flatMap]
    simp [WarningKind.all]

end ContextFree
