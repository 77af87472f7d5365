import ContextFree.Ascending
import ContextFree.Grammar.Basic

/-! When two grammars are the same: one start, and the same set of productions. The fingerprint of a
grammar rests on the same content. -/
namespace ContextFree.Grammar

def canonical (g : Grammar) : List Production :=
  ascending g.productions

/-- Order and repeats of productions do not count, nor what a normalization introduced. -/
def same (g h : Grammar) : Bool :=
  g.start = h.start && g.canonical = h.canonical

/-- One item of what a hash of a grammar is computed from. -/
inductive HashItem where
  | start (a : NonTerminal)
  | production (p : Production)
deriving DecidableEq

def fingerprint (g : Grammar) : List HashItem :=
  .start g.start :: g.canonical.map .production

variable {g h : Grammar}

theorem same_iff :
    g.same h = true ↔ g.start = h.start ∧ ∀ p, p ∈ g.productions ↔ p ∈ h.productions := by
  rw [same, Bool.and_eq_true, decide_eq_true_eq, decide_eq_true_eq, canonical, canonical,
    ascending_eq_iff]

theorem same_iff_canonical : g.same h = true ↔ g.start = h.start ∧ g.canonical = h.canonical := by
  rw [same, Bool.and_eq_true, decide_eq_true_eq, decide_eq_true_eq]

theorem equivalence_same : Equivalence fun g h : Grammar => g.same h = true where
  refl _ := same_iff_canonical.2 ⟨rfl, rfl⟩
  symm hgh := by
    obtain ⟨hs, hc⟩ := same_iff_canonical.1 hgh
    exact same_iff_canonical.2 ⟨hs.symm, hc.symm⟩
  trans hgh hhk := by
    obtain ⟨hs, hc⟩ := same_iff_canonical.1 hgh
    obtain ⟨hs', hc'⟩ := same_iff_canonical.1 hhk
    exact same_iff_canonical.2 ⟨hs.trans hs', hc.trans hc'⟩

/-- A grammar made of some productions of another is the same if it has all of them. -/
theorem same_ofProductions_iff {ps : List Production} (hps : ps ⊆ g.productions) :
    (ofProductions ps g.start).same g = true ↔ g.productions ⊆ ps := by
  rw [same_iff]
  constructor
  · intro h p hp
    exact (h.2 p).2 hp
  · intro h
    exact ⟨rfl, fun p => ⟨fun hp => hps hp, fun hp => h hp⟩⟩

theorem fingerprint_eq_iff_same : g.fingerprint = h.fingerprint ↔ g.same h = true := by
  have hmap : g.canonical.map HashItem.production = h.canonical.map .production ↔
      g.canonical = h.canonical :=
    List.map_inj_right fun _ _ => HashItem.production.inj
  rw [fingerprint, fingerprint, List.cons.injEq, HashItem.start.injEq, hmap, same_iff_canonical]

/-- What a fingerprint lists: the start, then the distinct productions in ascending order. -/
theorem exists_fingerprint_eq (g : Grammar) :
    ∃ ps, g.fingerprint = .start g.start :: ps.map .production ∧ IsAscending ps ∧
      ∀ p, p ∈ ps ↔ p ∈ g.productions :=
  ⟨g.canonical, rfl, isAscending_ascending _, fun _ => mem_ascending⟩

end ContextFree.Grammar
