import ContextFree.Proofs.Passes
import ContextFree.Proofs.Reachability
import ContextFree.Proofs.Worklist
import ContextFree.Survey.Basic

/-! The loops behind surveys and paths end on every grammar, cyclic ones too, within bounds that its
non-terminals and heads give. -/
namespace ContextFree.Grammar

open Search Saturation

variable (g : Grammar)

/-- The loop that finds what is reachable, after `k` turns. The start is marked before the first. -/
def reachabilityLoop (k : Nat) : Worklist NonTerminal :=
  (Worklist.turn g.successors fun _ => false)^[k] (.start [g.start] g.start)

/-- The loop that looks for a path from `a` to `b`, after `k` turns. Nothing is marked before the
first, not even `a`. -/
def pathLoop (a b : NonTerminal) (k : Nat) : Worklist NonTerminal :=
  (Worklist.turn g.successors (· == b))^[k] (.start [] a)

def headCount : Nat :=
  (distinct (g.productions.map Production.head)).length

/-- No non-terminal is pushed twice, so there are no more turns than non-terminals. -/
structure ReachabilityLoopEnds : Prop where
  nodup_pushed : ∀ k, (g.reachabilityLoop k).pushed.Nodup
  pushed_subset : ∀ k, (g.reachabilityLoop k).pushed ⊆ g.nonTerminals
  length_popped_le : ∀ k, (g.reachabilityLoop k).popped.length ≤ g.nonTerminals.length
  isOver : (g.reachabilityLoop g.nonTerminals.length).isOver = true
  popped_eq : (g.reachabilityLoop g.nonTerminals.length).popped = g.reachable

/-- Only the source may be pushed twice: before the first turn, and when it is met again. -/
structure PathLoopEnds (a b : NonTerminal) : Prop where
  count_pushed_le : ∀ k c, c ≠ a → (g.pathLoop a b k).pushed.count c ≤ 1
  count_source_le : ∀ k, (g.pathLoop a b k).pushed.count a ≤ 2
  length_popped_le : ∀ k, (g.pathLoop a b k).popped.length ≤ g.nonTerminals.length + 1
  isOver : (g.pathLoop a b (g.nonTerminals.length + 1)).isOver = true
  found_eq : (g.pathLoop a b (g.nonTerminals.length + 1)).found = g.leadsTo a b

/-- Marks are heads, each marked once. A pass that changes something leaves more of them than it
found, and after the last pass no production can mark its head. -/
structure MarkingLoopEnds (terminals : Bool) (answer : List NonTerminal) : Prop where
  nodup_marked : ∀ k, (Round.after terminals g.productions k).marked.Nodup
  exists_head : ∀ k, ∀ a ∈ (Round.after terminals g.productions k).marked,
    ∃ p ∈ g.productions, p.head = a
  length_marked_lt : ∀ k, (Round.after terminals g.productions k).changed = true →
    (Round.after terminals g.productions (k + 1)).changed = true →
    (Round.after terminals g.productions k).marked.length <
      (Round.after terminals g.productions (k + 1)).marked.length
  isLeft : (Round.after terminals g.productions (g.headCount + 1)).changed = false
  length_history_le : (history terminals g.productions []).length ≤ g.headCount + 1
  closed : ∀ p ∈ g.productions,
    fires terminals (Round.after terminals g.productions (g.headCount + 1)).marked p = false
  marked_eq : (Round.after terminals g.productions (g.headCount + 1)).marked = answer

theorem successors_subset (a : NonTerminal) : g.successors a ⊆ g.nonTerminals :=
  fun _ => mem_nonTerminals_of_mem_successors

theorem isSound_reachabilityLoop (k : Nat) : (g.reachabilityLoop k).IsSound g.nonTerminals [] := by
  refine Worklist.IsSound.iterate_turn g.successors_subset ⟨List.nodup_singleton _, ?_, rfl, rfl⟩ k
  exact List.cons_subset.2 ⟨mem_nonTerminals.2 (.inl rfl), List.nil_subset _⟩

theorem isOver_reachabilityLoop : (g.reachabilityLoop g.nonTerminals.length).isOver = true :=
  (g.isSound_reachabilityLoop 0).isOver_iterate_turn g.successors_subset rfl

theorem reachabilityLoopEnds : g.ReachabilityLoopEnds where
  nodup_pushed k := by
    have h := g.isSound_reachabilityLoop k
    rw [h.pushed_eq, List.nil_append, List.nodup_reverse]
    exact h.nodup
  pushed_subset k := by
    have h := g.isSound_reachabilityLoop k
    rw [h.pushed_eq, List.nil_append]
    exact fun a ha => h.subset (List.mem_reverse.1 ha)
  length_popped_le k := (g.isSound_reachabilityLoop k).length_popped_le
  isOver := g.isOver_reachabilityLoop
  popped_eq := by
    obtain ⟨hf, hp⟩ :=
      Worklist.found_and_popped_of_isOver g.successors_subset rfl _ g.isOver_reachabilityLoop
    -- There is no goal to meet.
    have hn : _ = false := hf.trans (by simp)
    rw [reachabilityLoop, hp hn, reachable, found, ← others_singleton g.nodup_nonTerminals]
    rfl

theorem isSound_pathLoop (a b : NonTerminal) (k : Nat) :
    (g.pathLoop a b k).IsSound g.nonTerminals [a] :=
  Worklist.IsSound.iterate_turn g.successors_subset ⟨List.nodup_nil, List.nil_subset _, rfl, rfl⟩ k

theorem isOver_pathLoop (a b : NonTerminal) :
    (g.pathLoop a b (g.nonTerminals.length + 1)).isOver = true :=
  (g.isSound_pathLoop a b 0).isOver_iterate_turn g.successors_subset rfl

theorem pathLoopEnds (a b : NonTerminal) : g.PathLoopEnds a b where
  count_pushed_le k c hc := by
    have hle := (g.isSound_pathLoop a b k).count_pushed_le c
    rwa [List.count_singleton, beq_false_of_ne hc.symm] at hle
  count_source_le k := by
    have hle := (g.isSound_pathLoop a b k).count_pushed_le a
    rwa [List.count_singleton_self] at hle
  length_popped_le k := (g.isSound_pathLoop a b k).length_popped_le
  isOver := g.isOver_pathLoop a b
  found_eq := by
    obtain ⟨hf, -⟩ :=
      Worklist.found_and_popped_of_isOver g.successors_subset rfl _ (g.isOver_pathLoop a b)
    rw [pathLoop, hf, leadsTo, hasPath, Worklist.start, others_nil]
    simp only [List.any_beq']

theorem markingLoopEnds (terminals : Bool) :
    g.MarkingLoopEnds terminals (closure terminals g.productions) :=
  have hsound := Round.isSound_after terminals g.productions
  have hleft := Round.changed_after_eq_false terminals g.productions
  { nodup_marked := fun k => (hsound k).nodup
    exists_head := fun k => (hsound k).heads
    length_marked_lt := fun k hk hn => by
      rw [Round.after_succ] at hn ⊢
      exact Round.length_marked_lt hk hn
    isLeft := hleft
    length_history_le := (Round.changed_iterate_next_iff _).1 hleft
    closed := (hsound _).ended hleft
    marked_eq := Round.marked_after_eq_closure _ hleft }

/-- All four loops end, and then hold what the surveys and paths answer. -/
theorem loops_end :
    g.ReachabilityLoopEnds ∧ (∀ a b, g.PathLoopEnds a b) ∧
      g.MarkingLoopEnds true g.productive ∧ g.MarkingLoopEnds false g.nullable :=
  ⟨g.reachabilityLoopEnds, g.pathLoopEnds, g.markingLoopEnds true, g.markingLoopEnds false⟩

/-- The start leads to itself and to `A`: the search for a path from it pushes it twice. It is marked
in the second pass, after `A`, and the third pass marks nothing. -/
theorem loops_end_at_self_loop :
    let g := ofProductions [⟨⟨"S"⟩, [.nonTerminal ⟨"S"⟩]⟩, ⟨⟨"S"⟩, [.nonTerminal ⟨"A"⟩]⟩,
      ⟨⟨"A"⟩, [.terminal ⟨"a"⟩]⟩, ⟨⟨"B"⟩, []⟩] ⟨"S"⟩
    let path := g.pathLoop ⟨"S"⟩ ⟨"B"⟩
    let marking := Round.after true g.productions
    (path 3).pushed = [⟨"S"⟩, ⟨"S"⟩, ⟨"A"⟩] ∧ (path 3).pushed.count ⟨"A"⟩ ≤ 1 ∧
      (path 4).isOver = true ∧ (marking 1).marked.length < (marking 2).marked.length ∧
      (marking 3).changed = false ∧ g.productive = [⟨"S"⟩, ⟨"B"⟩, ⟨"A"⟩] := by
  intro g path marking
  obtain ⟨-, hpath, hproductive, -⟩ := loops_end g
  have hA : (⟨"A"⟩ : NonTerminal) ≠ ⟨"S"⟩ := by decide
  have h1 : (marking 1).changed = true := by decide
  have h2 : (marking 2).changed = true := by decide
  exact ⟨by decide, (hpath _ _).count_pushed_le 3 _ hA, (hpath _ _).isOver,
    hproductive.length_marked_lt 1 h1 h2, by decide, hproductive.marked_eq.symm.trans (by decide)⟩

end ContextFree.Grammar
