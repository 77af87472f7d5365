import ContextFree.Grammar.Lemmas
import ContextFree.Proofs.Derivation
import ContextFree.Proofs.Saturation
import ContextFree.Warning.Report
import Mathlib.Logic.IsEmpty.Basic
import Mathlib.Logic.Nonempty

/-! A survey by number and a list of the non-terminals that lack a quality say the same as the set of
those that have it. A non-terminal is productive exactly when a finite parse tree stands over it, and
nullable exactly when one with no leaves does: so the surveys say whether the language of a non-terminal
is empty, and whether the empty string is in it. -/
namespace ContextFree

open Saturation

variable {g : Grammar} {s : List Symbol} {a : NonTerminal} {n : NonTerminalId} {q : Quality}
  {terminals : Bool}

theorem Survey.holds?_eq_some_true_iff :
    (Survey.of q g).holds? n = some true ↔ ∃ a, g.nonTerminal? n = some a ∧ a ∈ g.having q := by
  simp [holds?_of]

theorem Survey.holds?_eq_some_false_iff :
    (Survey.of q g).holds? n = some false ↔ ∃ a, g.nonTerminal? n = some a ∧ a ∉ g.having q := by
  simp [holds?_of]

namespace Grammar

theorem mem_lacking_iff :
    a ∈ g.lacking q ↔ (∃ p ∈ g.productions, p.head = a) ∧ a ∉ g.having q := by
  simp only [lacking, mem_ascending, List.mem_filterMap, Option.filter_eq_some_iff,
    Bool.and_eq_true, decide_eq_true_eq, isDefined_iff, Survey.holds?_eq_some_false_iff]
  constructor
  · intro h
    obtain ⟨n, -, ha, hd, b, hb, hq⟩ := h
    have he : a = b := Option.some.inj (ha.symm.trans hb)
    exact ⟨hd, he ▸ hq⟩
  · intro h
    obtain ⟨⟨p, hp, he⟩, hq⟩ := h
    obtain ⟨n, hm, hn⟩ := exists_nonTerminal?_eq (he ▸ head_mem_nonTerminals hp)
    exact ⟨n, hm, hn, ⟨p, hp, he⟩, a, hn, hq⟩

end Grammar

/-- Whether every leaf holds: there is none, or terminals do. -/
def Forest.LeavesHold (terminals : Bool) (f : Forest g s) : Prop :=
  terminals = true ∨ f.yield = []

theorem Forest.leavesHold_append_iff {r : List Symbol} {f : Forest g s} {f' : Forest g r} :
    (f.append f').LeavesHold terminals ↔ f.LeavesHold terminals ∧ f'.LeavesHold terminals := by
  unfold LeavesHold
  rw [yield_append, List.append_eq_nil_iff, or_and_left]

theorem Forest.leavesHold_node_iff {p : Production} {hp : p ∈ g.productions}
    {children : Forest g p.body} {trees : Forest g s} :
    (Forest.node p hp children trees).LeavesHold terminals ↔
      children.LeavesHold terminals ∧ trees.LeavesHold terminals := by
  unfold LeavesHold
  rw [yield, List.append_eq_nil_iff, or_and_left]

theorem Forest.holdsUnder {P : NonTerminal → Prop} (hP : Closed terminals g.productions P)
    (f : Forest g s) (hf : f.LeavesHold terminals) : ∀ x ∈ s, HoldsUnder terminals P x := by
  induction f with
  | nil => simp
  | leaf t trees ih =>
    have ht : terminals = true := hf.resolve_right (List.cons_ne_nil _ _)
    intro x hx
    rcases List.mem_cons.1 hx with rfl | hx
    · exact ht
    · exact ih (.inl ht) x hx
  | node p mem children trees hc ht =>
    obtain ⟨hfc, hft⟩ := leavesHold_node_iff.1 hf
    have hp : P p.head := hP p mem (hc hfc)
    intro x hx
    rcases List.mem_cons.1 hx with rfl | hx
    · exact hp
    · exact ht hft x hx

/-- Trees over the symbols of a form, one at a time, are trees over the form. -/
theorem exists_forest_of_holdsUnder
    (h : ∀ x ∈ s, HoldsUnder terminals (fun a => ∃ f : ParseTree g a, f.LeavesHold terminals) x) :
    ∃ f : Forest g s, f.LeavesHold terminals := by
  induction s with
  | nil => exact ⟨.nil, .inr rfl⟩
  | cons x s ih =>
    obtain ⟨f, hf⟩ := ih fun y hy => h y (List.mem_cons_of_mem _ hy)
    have hx := h x List.mem_cons_self
    cases x with
    | terminal t => exact ⟨.leaf t f, .inl hx⟩
    | nonTerminal a =>
      obtain ⟨tree, ht⟩ := hx
      exact ⟨tree.append f, Forest.leavesHold_append_iff.2 ⟨ht, hf⟩⟩

theorem mem_closure_iff :
    a ∈ closure terminals g.productions ↔ ∃ f : ParseTree g a, f.LeavesHold terminals := by
  constructor
  · apply of_mem_closure
    intro p hp hb
    obtain ⟨f, hf⟩ := exists_forest_of_holdsUnder hb
    exact ⟨.node p hp f .nil, Forest.leavesHold_node_iff.2 ⟨hf, .inr rfl⟩⟩
  · intro h
    obtain ⟨f, hf⟩ := h
    exact f.holdsUnder (closed_closure terminals g.productions) hf _ List.mem_cons_self

namespace Grammar

theorem mem_productive_iff : a ∈ g.productive ↔ Nonempty (ParseTree g a) := by
  rw [productive, mem_closure_iff]
  simp [Forest.LeavesHold, exists_true_iff_nonempty]

theorem nonempty_parseTree_iff :
    Nonempty (ParseTree g a) ↔
      ∃ w : List Terminal, Derives g [.nonTerminal a] (w.map .terminal) := by
  constructor
  · intro h
    obtain ⟨f⟩ := h
    exact ⟨f.yield, f.derives_yield⟩
  · intro h
    obtain ⟨w, hw⟩ := h
    obtain ⟨f, -⟩ := derives_terminals_iff.1 hw
    exact ⟨f⟩

theorem mem_nullable_iff : a ∈ g.nullable ↔ Derives g [.nonTerminal a] [] := by
  rw [nullable, mem_closure_iff, derives_nil_iff]
  simp [Forest.LeavesHold]

theorem isNullable_iff : g.isNullable a = true ↔ a ∈ g.nullable := by
  unfold isNullable
  cases h : g.id? a with
  | none =>
    have ha : a ∉ g.nullable := by
      intro hn
      obtain ⟨p, hp, rfl⟩ := exists_head_of_mem_closure hn
      exact id?_eq_none_iff.1 h (head_mem_nonTerminals hp)
    simp [ha]
  | some n =>
    have ha : g.nonTerminal? n = some a := id?_eq_some_iff.1 h
    simp [Survey.holds?_of, ha, having]

theorem generatesEmpty_iff : g.generatesEmpty = true ↔ g.start ∈ g.nullable := by
  simp [generatesEmpty, Survey.holds?_of, having]

end Grammar

/-- The survey answers for just the numbers of the grammar, yes where a finite parse tree exists. -/
theorem productive_iff_parseTree (g : Grammar) :
    (∀ n, (Survey.of .productive g).holds? n = some true ↔
      ∃ a, g.nonTerminal? n = some a ∧ Nonempty (ParseTree g a)) ∧
    (∀ n, (Survey.of .productive g).holds? n = some false ↔
      ∃ a, g.nonTerminal? n = some a ∧ IsEmpty (ParseTree g a)) ∧
    ∀ a, a ∈ g.unterminated ↔
      (∃ p ∈ g.productions, p.head = a) ∧
        ∀ w : List Terminal, ¬ Derives g [.nonTerminal a] (w.map .terminal) := by
  have hm : ∀ a, a ∈ g.having .productive ↔ Nonempty (ParseTree g a) :=
    fun _ => Grammar.mem_productive_iff
  refine ⟨fun n => ?_, fun n => ?_, fun a => ?_⟩
  · simp only [Survey.holds?_eq_some_true_iff, hm]
  · simp only [Survey.holds?_eq_some_false_iff, hm, not_nonempty_iff]
  · rw [Grammar.unterminated, Grammar.mem_lacking_iff, hm, Grammar.nonempty_parseTree_iff,
      not_exists]

/-- A terminal is never null: neither for the passes of the survey nor for derivation. -/
theorem nullable_iff_derives_nil (g : Grammar) :
    (∀ a, g.isNullable a = true ↔ Derives g [.nonTerminal a] []) ∧
    (g.generatesEmpty = true ↔ g.Generates []) ∧
    ∀ (p : Production) (t : Terminal), Symbol.terminal t ∈ p.body →
      (∀ marked, Saturation.fires false marked p = false) ∧ ¬ Derives g p.body [] := by
  refine ⟨fun a => ?_, ?_, fun p t ht => ⟨fun marked => ?_, ?_⟩⟩
  · rw [Grammar.isNullable_iff, Grammar.mem_nullable_iff]
  · rw [Grammar.generatesEmpty_iff, Grammar.mem_nullable_iff, derives_nil_iff, Grammar.Generates]
  · exact Saturation.fires_eq_false_of_terminal_mem ht
  · exact not_derives_nil_of_terminal_mem ht

/-- Only the literal, whose value is empty, keeps this body from being null. -/
def withEmptyLiteral : Production :=
  ⟨⟨"S"⟩, [.nonTerminal ⟨"A"⟩, .terminal ⟨""⟩]⟩

theorem empty_literal_not_null :
    let g := Grammar.ofProductions [withEmptyLiteral, ⟨⟨"A"⟩, []⟩] ⟨"S"⟩
    Symbol.terminal ⟨""⟩ ∈ withEmptyLiteral.body ∧ g.isNullable ⟨"A"⟩ = true ∧
      g.isNullable ⟨"S"⟩ = false ∧ ¬ Derives g withEmptyLiteral.body [] := by
  have hm : Symbol.terminal ⟨""⟩ ∈ withEmptyLiteral.body := by decide
  refine ⟨hm, by cbv, by cbv, ?_⟩
  exact ((nullable_iff_derives_nil _).2.2 withEmptyLiteral ⟨""⟩ hm).2

end ContextFree
