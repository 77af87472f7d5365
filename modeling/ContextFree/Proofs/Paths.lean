import ContextFree.Proofs.Reachability
import ContextFree.Survey.Basic
import Mathlib.Data.List.Cycle

/-! Chains of steps from heads into bodies. One non-terminal leads to another just if a chain of one
step or more joins them, and to itself just if it lies on a cycle. -/
namespace ContextFree.Grammar

variable {g : Grammar} {a b c : NonTerminal}

/-- The chain is never empty: it has its two ends, and `between` has what is passed on the way. -/
theorem leadsTo_iff_exists_isChain :
    g.LeadsTo a b ↔ ∃ between, List.IsChain g.Step (a :: (between ++ [b])) := by
  constructor
  · intro h
    induction h with
    | single hs => exact ⟨[], .cons_cons hs (.singleton _)⟩
    | @tail b c _ hs ih =>
      obtain ⟨between, hc⟩ := ih
      refine ⟨between ++ [b], ?_⟩
      rw [List.append_assoc]
      exact List.isChain_cons_append_cons_cons.2 ⟨hc, hs, .singleton _⟩
  · rintro ⟨between, hc⟩
    -- The last step is the one that is split off, as it is in `LeadsTo`.
    induction between using List.reverseRecOn generalizing b with
    | nil => exact .single (List.isChain_pair.1 hc)
    | append_singleton between c ih =>
      rw [List.append_assoc] at hc
      obtain ⟨hc, hs, -⟩ := List.isChain_cons_append_cons_cons.1 hc
      exact .tail (ih hc) hs

theorem LeadsTo.trans (h : g.LeadsTo a b) (k : g.LeadsTo b c) : g.LeadsTo a c := by
  induction k with
  | single hs => exact h.tail hs
  | tail _ hs ih => exact ih.tail hs

theorem LeadsTo.exists_head_eq (h : g.LeadsTo a b) : ∃ p ∈ g.productions, p.head = a := by
  induction h with
  | single hs =>
    obtain ⟨p, hp, he, -⟩ := hs
    exact ⟨p, hp, he⟩
  | tail _ _ ih => exact ih

theorem LeadsTo.exists_mem_body (h : g.LeadsTo a b) :
    ∃ p ∈ g.productions, Symbol.nonTerminal b ∈ p.body := by
  cases h with
  | single hs | tail _ hs =>
    obtain ⟨p, hp, -, hb⟩ := hs
    exact ⟨p, hp, Production.mem_nonTerminals.1 hb⟩

/-- A cycle can be read from any of its non-terminals. -/
theorem exists_cycle_iff :
    (∃ s : Cycle NonTerminal, a ∈ s ∧ s.Chain g.Step) ↔
      ∃ between, List.IsChain g.Step (a :: (between ++ [a])) := by
  constructor
  · rintro ⟨s, ha, hs⟩
    induction s using Quotient.inductionOn with
    | h l =>
      obtain ⟨before, after, rfl⟩ := List.append_of_mem ha
      have hr : (↑(before ++ a :: after) : Cycle NonTerminal) = ↑(a :: after ++ before) :=
        Cycle.coe_eq_coe.2 List.isRotated_append
      exact ⟨after ++ before, (Cycle.chain_coe_cons _ _ _).1 (hr ▸ hs)⟩
  · rintro ⟨between, hc⟩
    exact ⟨↑(a :: between), List.mem_cons_self, (Cycle.chain_coe_cons _ _ _).2 hc⟩

theorem leadsTo_eq_false (h : ¬ g.LeadsTo a b) : g.leadsTo a b = false :=
  Bool.eq_false_iff.2 (mt leadsTo_iff.1 h)

theorem holds?_reachable (n : NonTerminalId) :
    (Survey.of .reachable g).holds? n =
      (g.nonTerminal? n).map fun a => a = g.start || g.leadsTo g.start a := by
  rw [Survey.holds?_of, having]
  refine congrArg (Option.map · _) (funext fun a => ?_)
  rw [Bool.eq_iff_iff, List.contains_iff_mem, mem_reachable_iff, Bool.or_eq_true, decide_eq_true_eq,
    leadsTo_iff]

/-- The search agrees with chains and cycles of steps, and the survey of reachable non-terminals with
the search from the start. Nothing leads from what has no production or to what is in no body. -/
theorem leadsTo_by_chains (g : Grammar) :
    (∀ a b, g.leadsTo a b = true ↔ ∃ between, List.IsChain g.Step (a :: (between ++ [b]))) ∧
    (∀ a, g.leadsTo a a = true ↔ ∃ s : Cycle NonTerminal, a ∈ s ∧ s.Chain g.Step) ∧
    (∀ a b, ((∀ p ∈ g.productions, p.head ≠ a) ∨
      (∀ p ∈ g.productions, Symbol.nonTerminal b ∉ p.body)) → g.leadsTo a b = false) ∧
    (∀ a b c, g.leadsTo a b = true → g.leadsTo b c = true → g.leadsTo a c = true) ∧
    ∀ n, (Survey.of .reachable g).holds? n =
      (g.nonTerminal? n).map fun a => a = g.start || g.leadsTo g.start a := by
  refine ⟨fun a b => ?_, fun a => ?_, fun a b h => leadsTo_eq_false fun hl => ?_,
    fun a b c hab hbc => ?_, holds?_reachable⟩
  · rw [leadsTo_iff, leadsTo_iff_exists_isChain]
  · rw [leadsTo_iff, leadsTo_iff_exists_isChain, exists_cycle_iff]
  · obtain ⟨p, hp, he⟩ := hl.exists_head_eq
    obtain ⟨q, hq, hb⟩ := hl.exists_mem_body
    rcases h with hh | hn
    · exact hh p hp he
    · exact hn q hq hb
  · exact leadsTo_iff.2 ((leadsTo_iff.1 hab).trans (leadsTo_iff.1 hbc))

/-- The non-terminals `A` and `B` are on a cycle that the start only leads to, and `C` has no
production. -/
theorem leadsTo_by_chains_past_cycle :
    let g := Grammar.ofProductions [⟨⟨"S"⟩, [.nonTerminal ⟨"A"⟩]⟩, ⟨⟨"A"⟩, [.nonTerminal ⟨"B"⟩]⟩,
      ⟨⟨"B"⟩, [.nonTerminal ⟨"A"⟩, .nonTerminal ⟨"C"⟩]⟩] ⟨"S"⟩
    g.leadsTo ⟨"A"⟩ ⟨"A"⟩ = true ∧ g.leadsTo ⟨"S"⟩ ⟨"C"⟩ = true ∧ g.leadsTo ⟨"C"⟩ ⟨"A"⟩ = false ∧
      g.leadsTo ⟨"S"⟩ ⟨"S"⟩ = false := by
  intro g
  obtain ⟨hchain, hcycle, hfalse, htrans, -⟩ := leadsTo_by_chains g
  have hSA : g.Step ⟨"S"⟩ ⟨"A"⟩ := ⟨_, List.mem_cons_self, rfl, List.mem_cons_self⟩
  have hAB : g.Step ⟨"A"⟩ ⟨"B"⟩ := ⟨⟨⟨"A"⟩, [.nonTerminal ⟨"B"⟩]⟩, by decide, rfl, by decide⟩
  have hBA : g.Step ⟨"B"⟩ ⟨"A"⟩ :=
    ⟨⟨⟨"B"⟩, [.nonTerminal ⟨"A"⟩, .nonTerminal ⟨"C"⟩]⟩, by decide, rfl, by decide⟩
  have hBC : g.Step ⟨"B"⟩ ⟨"C"⟩ :=
    ⟨⟨⟨"B"⟩, [.nonTerminal ⟨"A"⟩, .nonTerminal ⟨"C"⟩]⟩, by decide, rfl, by decide⟩
  refine ⟨(hcycle _).2 ⟨↑[NonTerminal.mk "A", ⟨"B"⟩], List.mem_cons_self, ?_⟩,
    htrans _ ⟨"A"⟩ _ ((hchain _ _).2 ⟨[], by simpa using hSA⟩) ((hchain _ _).2 ⟨[⟨"B"⟩], ?_⟩),
    hfalse _ _ (.inl (by decide)), hfalse _ _ (.inr (by decide))⟩
  · rw [Cycle.chain_coe_cons]
    simpa using ⟨hAB, hBA⟩
  · simpa using ⟨hAB, hBC⟩

end ContextFree.Grammar
