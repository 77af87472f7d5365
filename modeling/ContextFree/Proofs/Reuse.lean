import ContextFree.Proofs.Construction

/-! Several grammars in turn under one survey or one log. A survey keeps nothing of the grammars
before the last, and a log keeps all their warnings, which are those that each has stored. -/
namespace ContextFree

variable {g : Grammar} {gs : List Grammar} {q : Quality} {a : NonTerminal}

def Quality.Holds (g : Grammar) : Quality → NonTerminal → Prop
  | .reachable, a => g.Occurs a
  | .productive, a => Nonempty (ParseTree g a)
  | .nullable, a => Derives g [.nonTerminal a] []

theorem Grammar.mem_having_iff : a ∈ g.having q ↔ q.Holds g a := by
  cases q with
  | reachable => exact mem_reachable_iff_occurs
  | productive => exact mem_productive_iff
  | nullable => exact mem_nullable_iff

namespace Survey

theorem holds?_of_eq_none_iff {n : NonTerminalId} :
    (of q g).holds? n = none ↔ g.nonTerminals.length ≤ n.toNat := by
  rw [holds?_of, Option.map_eq_none_iff, Grammar.nonTerminal?, List.getElem?_eq_none_iff]

theorem holds?_of_eq_some_iff {n : NonTerminalId} {b : Bool} :
    (of q g).holds? n = some b ↔ ∃ a, g.nonTerminal? n = some a ∧ (b = true ↔ q.Holds g a) := by
  rw [holds?_of, Option.map_eq_some_iff]
  refine exists_congr fun a => and_congr_right fun _ => ?_
  rw [← Grammar.mem_having_iff, ← List.contains_iff_mem, ← Bool.eq_iff_iff, eq_comm]

/-- A survey of several grammars in turn is the survey of the last. -/
theorem foldl_update_take (s : Survey) {i : Nat} (h : gs[i]? = some g) :
    (gs.take (i + 1)).foldl (update q) s = of q g := by
  rw [List.take_add_one, h, List.foldl_append]
  rfl

end Survey

theorem WarningLog.warnings_foldl_add (l : WarningLog) (gs : List Grammar) :
    (gs.foldl add l).warnings = l.warnings ++ gs.flatMap Grammar.warnings := by
  induction gs generalizing l with
  | nil => rw [List.foldl_nil, List.flatMap_nil, List.append_nil]
  | cons g gs ih => rw [List.foldl_cons, ih, List.flatMap_cons, add, List.append_assoc]

def WarningLog.analyse (l : WarningLog) (r : Record) : WarningLog :=
  { l with warnings := l.warnings ++ r.findings }

theorem WarningLog.warnings_foldl_analyse (l : WarningLog) (gs : List Grammar) :
    ((gs.map Record.ofGrammar).foldl analyse l).warnings =
      l.warnings ++ (gs.map Record.ofGrammar).flatMap Record.warnings := by
  induction gs generalizing l with
  | nil => rw [List.map_nil, List.foldl_nil, List.flatMap_nil, List.append_nil]
  | cons g gs ih =>
    have hfound : (Record.ofGrammar g).findings = (Record.ofGrammar g).warnings :=
      Record.findings_make _ _ _
    rw [List.map_cons, List.foldl_cons, ih, List.flatMap_cons, analyse, hfound, List.append_assoc]

/-- After each of several grammars in turn, a survey that began with the first answers as one that
never saw another grammar: for no other numbers, and as derivations say. A log that began empty has
the warnings of all of them, in order; the warnings of one grammar are what an empty log gets. They are
also what the unfinished record of a grammar stores, so an analysis of finished records one after another
collects what they have stored. -/
theorem reused_for_each (first : Grammar) (rest : List Grammar) :
    let gs := first :: rest
    (∀ (q : Quality) (i : Nat) (g : Grammar), gs[i]? = some g →
      let s := (gs.take (i + 1)).foldl (Survey.update q) (Survey.of q first)
      (∀ n, s.holds? n = (Survey.of q g).holds? n) ∧
      (∀ n, s.holds? n = none ↔ g.nonTerminals.length ≤ n.toNat) ∧
      ∀ n b, s.holds? n = some b ↔ ∃ a, g.nonTerminal? n = some a ∧ (b = true ↔ q.Holds g a)) ∧
    (∀ i, ((gs.take i).foldl WarningLog.add ⟨[]⟩).warnings = (gs.take i).flatMap Grammar.warnings) ∧
    (∀ g, (WarningLog.add ⟨[]⟩ g).warnings = g.warnings) ∧
    (∀ productions start introduced, (Record.make productions start introduced).warnings =
      (Grammar.normalized productions start introduced).warnings) ∧
    ∀ i, let records := (gs.take i).map Record.ofGrammar
      (records.foldl WarningLog.analyse ⟨[]⟩).warnings = records.flatMap Record.warnings ∧
        records.flatMap Record.warnings = (gs.take i).flatMap Grammar.warnings := by
  intro gs
  refine ⟨fun q i g hg => ?_, fun i => WarningLog.warnings_foldl_add ⟨[]⟩ _, fun _ => rfl,
    Record.warnings_make, fun i => ⟨WarningLog.warnings_foldl_analyse ⟨[]⟩ _, ?_⟩⟩
  · intro s
    have hs : s = Survey.of q g := Survey.foldl_update_take _ hg
    rw [hs]
    exact ⟨fun _ => rfl, fun _ => Survey.holds?_of_eq_none_iff,
      fun _ _ => Survey.holds?_of_eq_some_iff⟩
  · rw [List.flatMap_map]
    exact List.flatMap_congr fun g _ => Record.warnings_ofGrammar g

/-- The second grammar has a non-terminal more than the others, which is not reachable. -/
theorem reused_for_larger_and_smaller :
    let small := Grammar.ofProductions [⟨⟨"S"⟩, [.terminal ⟨"a"⟩]⟩] ⟨"S"⟩
    let large := Grammar.ofProductions [⟨⟨"S"⟩, [.terminal ⟨"a"⟩]⟩, ⟨⟨"X"⟩, [.terminal ⟨"x"⟩]⟩] ⟨"S"⟩
    let after (i : Nat) := ([small, large, small].take (i + 1)).foldl (Survey.update .reachable)
      (Survey.of .reachable small)
    [small, large, small][1]? = some large ∧ (after 1).holds? ⟨1⟩ = some false ∧
      (after 2).holds? ⟨1⟩ = none ∧ (after 2).holds? ⟨0⟩ = some true := by
  intro small large after
  obtain ⟨hreuse, -⟩ := reused_for_each small [large, small]
  obtain ⟨hlarge, -, -⟩ := hreuse .reachable 1 large rfl
  obtain ⟨hsmall, hnone, -⟩ := hreuse .reachable 2 small rfl
  refine ⟨rfl, (hlarge ⟨1⟩).trans (by cbv), (hnone ⟨1⟩).2 (by decide), (hsmall ⟨0⟩).trans (by cbv)⟩

end ContextFree
