import ContextFree.Proofs.Numbering
import ContextFree.Proofs.Passes
import ContextFree.Proofs.Reachability
import ContextFree.Proofs.Tables
import ContextFree.Warning.Report

/-! What is stored of a grammar, and the qualities of its non-terminals as they are found from the tables
alone, number by number. They are those that the grammar has by name. -/
namespace ContextFree

/-- All that is stored of a grammar. -/
structure Record extends Tables where
  start : NonTerminal
  productions : List Production
  introduced : List NonTerminal
  warnings : List Warning
deriving DecidableEq

namespace Record

/-- A flag for each number, and whether the pass set one. The loop is left after a pass that set none. -/
structure Marking where
  flags : List Bool
  changed : Bool
deriving DecidableEq

def isSet (flags : List Bool) (n : NonTerminalId) : Bool :=
  flags[n.toNat]?.getD false

section

variable (r : Record)

def nonTerminalIds : List NonTerminalId :=
  (List.range r.nonTerminals.length).map .mk

def id? (a : NonTerminal) : Option NonTerminalId :=
  (r.nonTerminals.idxOf? a).map .mk

def filedUnder (n : NonTerminalId) : List ProductionId :=
  r.alternativeIds[n.toNat]?.getD []

def isDefined (n : NonTerminalId) : Bool :=
  !(r.filedUnder n).isEmpty

def successors (n : NonTerminalId) : List NonTerminalId :=
  ((r.filedUnder n).filterMap fun i => r.productions[i.toNat]?).flatMap fun p =>
    p.nonTerminals.filterMap r.id?

def holds (terminals : Bool) (flags : List Bool) : Symbol → Bool
  | .terminal _ => terminals
  | .nonTerminal a => (r.id? a).any (isSet flags)

/-- One production in its turn, with the number of its head. -/
def mark (terminals : Bool) (m : Marking) (entry : NonTerminalId × Production) : Marking :=
  if !isSet m.flags entry.1 && entry.2.body.all (r.holds terminals m.flags) then
    ⟨m.flags.set entry.1.toNat true, true⟩
  else m

def nextMarking (terminals : Bool) (m : Marking) : Marking :=
  if m.changed then
    (r.headIds.zip r.productions).foldl (r.mark terminals) { m with changed := false }
  else m

/-- The loop after a pass for each production and one more, which is enough to leave it. -/
def marking (terminals : Bool) : Marking :=
  (r.nextMarking terminals)^[r.productions.length + 1]
    ⟨.replicate r.nonTerminals.length false, true⟩

def has (n : NonTerminalId) : Quality → Bool
  | .reachable => (Search.found r.successors r.nonTerminalIds Grammar.startId).contains n
  | .productive => isSet (r.marking true).flags n
  | .nullable => isSet (r.marking false).flags n

end

/-- The flags of the marks that a loop has set by name. -/
def Marking.ofRound (g : Grammar) (m : Saturation.Round) : Marking :=
  ⟨g.nonTerminals.map fun a => m.marked.contains a, m.changed⟩

section

variable {g : Grammar} {a : NonTerminal} {n : NonTerminalId}

theorem isSet_ofRound (ha : g.nonTerminal? n = some a) (m : Saturation.Round) :
    isSet (Marking.ofRound g m).flags n = m.marked.contains a := by
  have hn : g.nonTerminals[n.toNat]? = some a := ha
  rw [isSet, Marking.ofRound, List.getElem?_map, hn]
  rfl

theorem set_ofRound (ha : g.nonTerminal? n = some a) (m : Saturation.Round) (c : Bool) :
    ⟨(Marking.ofRound g m).flags.set n.toNat true, c⟩ = Marking.ofRound g ⟨a :: m.marked, c⟩ := by
  have hn : n.toNat < g.nonTerminals.length := (List.getElem?_eq_some_iff.1 ha).1
  rw [Marking.ofRound, Marking.ofRound, Marking.mk.injEq, and_iff_left rfl]
  apply List.ext_getElem?
  intro j
  rw [List.getElem?_set, List.length_map, if_pos hn, List.getElem?_map, List.getElem?_map]
  cases hb : g.nonTerminals[j]? with
  | none =>
    have hj : n.toNat ≠ j := by
      intro he
      subst he
      have hne : some a = none := ha.symm.trans hb
      exact Option.some_ne_none a hne
    rw [if_neg hj]
    rfl
  | some b =>
    -- One number is one non-terminal.
    have he : n.toNat = j ↔ b = a := by
      constructor
      · intro he
        subst he
        exact Option.some.inj (hb.symm.trans ha)
      · intro he
        subst he
        exact congrArg NonTerminalId.toNat (Grammar.nonTerminal?_inj ha (m := ⟨j⟩) hb)
    simp only [he, Option.map_some, List.contains_cons]
    by_cases hba : b = a
    · rw [if_pos hba, hba, beq_self_eq_true, Bool.true_or]
    · rw [if_neg hba, beq_false_of_ne hba, Bool.false_or]

end

/-- The record says what the grammar does, whatever warnings it stores. -/
structure IsOf (r : Record) (g : Grammar) : Prop where
  start : r.start = g.start
  productions : r.productions = g.productions
  introduced : r.introduced = g.introduced
  tables : r.toTables.Answers g

namespace IsOf

variable {r : Record} {g : Grammar} {a b : NonTerminal} {n m : NonTerminalId} {i : ProductionId}
  (h : r.IsOf g)
include h

theorem getElem?_nonTerminals (n : NonTerminalId) : r.nonTerminals[n.toNat]? = g.nonTerminal? n := by
  rw [h.tables.nonTerminals, Grammar.nonTerminal?]

theorem id?_eq (a : NonTerminal) : r.id? a = g.id? a := by
  rw [id?, h.tables.nonTerminals, Grammar.id?]

theorem nonTerminalIds_eq : r.nonTerminalIds = g.nonTerminalIds := by
  rw [nonTerminalIds, h.tables.nonTerminals, Grammar.nonTerminalIds]

theorem mem_filedUnder_iff : i ∈ r.filedUnder n ↔ g.headId? i = some n := by
  rw [filedUnder, h.tables.alternativeIds]
  by_cases hn : n ∈ g.nonTerminalIds
  · obtain ⟨is, his, -, hmem⟩ := Grammar.exists_alternativeIds? hn
    rw [his, Option.getD_some, hmem]
  · have hnone : g.nonTerminal? n = none := by
      rw [Grammar.mem_nonTerminalIds] at hn
      exact List.getElem?_eq_none (by omega)
    rw [Grammar.alternativeIds?, Grammar.headId?_eq_some_iff, hnone]
    simp

theorem isDefined_iff (ha : g.nonTerminal? n = some a) :
    r.isDefined n = true ↔ ∃ p ∈ g.productions, p.head = a := by
  rw [isDefined, Bool.not_eq_true', List.isEmpty_eq_false_iff_exists_mem]
  simp only [h.mem_filedUnder_iff, Grammar.headId?_eq_some_iff, ha, Option.some_inj]
  constructor
  · intro hi
    obtain ⟨i, p, hp, he⟩ := hi
    exact ⟨p, List.mem_of_getElem? hp, he.symm⟩
  · intro hp
    obtain ⟨p, hp, he⟩ := hp
    obtain ⟨i, -, hi⟩ := Grammar.exists_production?_eq hp
    exact ⟨i, p, hi, he.symm⟩

theorem isDefined_eq (ha : g.nonTerminal? n = some a) : r.isDefined n = g.isDefined a := by
  rw [Bool.eq_iff_iff, h.isDefined_iff ha, Grammar.isDefined_iff]

theorem mem_successors_iff :
    m ∈ r.successors n ↔
      ∃ a b, g.nonTerminal? n = some a ∧ g.nonTerminal? m = some b ∧ g.Step a b := by
  simp only [successors, List.mem_flatMap, List.mem_filterMap, h.mem_filedUnder_iff, h.productions,
    h.id?_eq, Grammar.headId?_eq_some_iff, Grammar.id?_eq_some_iff, Grammar.Step]
  constructor
  · intro hm
    obtain ⟨p, ⟨i, ⟨q, hq, ha⟩, hp⟩, b, hb, hm⟩ := hm
    have he : q = p := Option.some.inj (hq.symm.trans hp)
    exact ⟨p.head, b, he ▸ ha, hm, p, List.mem_of_getElem? hp, rfl, hb⟩
  · intro hm
    obtain ⟨a, b, ha, hm, p, hp, he, hb⟩ := hm
    obtain ⟨i, -, hi⟩ := Grammar.exists_production?_eq hp
    exact ⟨p, ⟨i, ⟨p, hi, he ▸ ha⟩, hi⟩, b, hb, hm⟩

/-! Paths from number to number are paths from name to name. -/

theorem exists_reaches_names (ha : g.nonTerminal? n = some a)
    (hr : Search.Reaches r.successors n m) :
    ∃ b, g.nonTerminal? m = some b ∧ Search.Reaches g.successors a b := by
  induction hr with
  | refl => exact ⟨a, ha, .refl⟩
  | tail _ hs ih =>
    obtain ⟨b, hb, hab⟩ := ih
    obtain ⟨b', c, hb', hc, hstep⟩ := h.mem_successors_iff.1 hs
    have he : b' = b := Option.some.inj (hb'.symm.trans hb)
    subst he
    exact ⟨c, hc, hab.tail (Grammar.mem_successors_iff.2 hstep)⟩

theorem exists_reaches_numbers (ha : g.nonTerminal? n = some a)
    (hr : Search.Reaches g.successors a b) :
    ∃ m, g.nonTerminal? m = some b ∧ Search.Reaches r.successors n m := by
  induction hr with
  | refl => exact ⟨n, ha, .refl⟩
  | tail _ hs ih =>
    obtain ⟨m, hm, hnm⟩ := ih
    obtain ⟨k, -, hk⟩ :=
      Grammar.exists_nonTerminal?_eq (Grammar.mem_nonTerminals_of_mem_successors hs)
    have hstep := Grammar.mem_successors_iff.1 hs
    exact ⟨k, hk, hnm.tail (h.mem_successors_iff.2 ⟨_, _, hm, hk, hstep⟩)⟩

theorem has_reachable_iff (ha : g.nonTerminal? n = some a) :
    r.has n .reachable = true ↔ a ∈ g.reachable := by
  have hnodes : ∀ m k, k ∈ r.successors m → k ∈ r.nonTerminalIds := by
    intro m k hk
    obtain ⟨-, b, -, hb, -⟩ := h.mem_successors_iff.1 hk
    rw [h.nonTerminalIds_eq]
    exact Grammar.mem_nonTerminalIds_of_eq_some hb
  have hstart : g.nonTerminal? Grammar.startId = some g.start := Grammar.nonTerminal?_startId g
  rw [has, List.contains_iff_mem, Search.mem_found_iff hnodes, Grammar.reachable,
    Search.mem_found_iff fun _ _ => Grammar.mem_nonTerminals_of_mem_successors]
  constructor
  · intro hr
    obtain ⟨b, hb, hab⟩ := h.exists_reaches_names hstart hr
    have he : b = a := Option.some.inj (hb.symm.trans ha)
    exact he ▸ hab
  · intro hr
    obtain ⟨m, hm, hsm⟩ := h.exists_reaches_numbers hstart hr
    exact Grammar.nonTerminal?_inj hm ha ▸ hsm

/-! A production in its turn sets the flag of its head if it marks the head, and so does every pass. -/

theorem holds_ofRound (terminals : Bool) (m : Saturation.Round) {p : Production}
    (hp : p ∈ g.productions) {s : Symbol} (hs : s ∈ p.body) :
    r.holds terminals (Marking.ofRound g m).flags s = Saturation.holds terminals m.marked s := by
  cases s with
  | terminal t => rfl
  | nonTerminal a =>
    have ha : a ∈ g.nonTerminals :=
      Grammar.mem_nonTerminals.2 (.inr ⟨p, hp, .inr (Production.mem_nonTerminals.2 hs)⟩)
    obtain ⟨n, -, hn⟩ := Grammar.exists_nonTerminal?_eq ha
    rw [holds, h.id?_eq, Grammar.id?_eq_some_iff.2 hn, Option.any_some, isSet_ofRound hn,
      Saturation.holds]

theorem mark_ofRound (terminals : Bool) (m : Saturation.Round) {p : Production}
    (hp : p ∈ g.productions) (hn : g.nonTerminal? n = some p.head) :
    r.mark terminals (Marking.ofRound g m) (n, p) = Marking.ofRound g (m.consider terminals p) := by
  have hbody : p.body.all (r.holds terminals (Marking.ofRound g m).flags) =
      p.body.all (Saturation.holds terminals m.marked) := by
    rw [Bool.eq_iff_iff, List.all_eq_true, List.all_eq_true]
    exact forall₂_congr fun s hs => by rw [h.holds_ofRound terminals m hp hs]
  rw [mark, isSet_ofRound hn, hbody, Saturation.Round.consider, Saturation.fires]
  split
  · exact set_ofRound hn m true
  · rfl

theorem foldl_mark_ofRound (terminals : Bool) (m : Saturation.Round)
    {entries : List (NonTerminalId × Production)}
    (he : ∀ e ∈ entries, e.2 ∈ g.productions ∧ g.nonTerminal? e.1 = some e.2.head) :
    entries.foldl (r.mark terminals) (Marking.ofRound g m) =
      Marking.ofRound g ((entries.map Prod.snd).foldl (Saturation.Round.consider terminals) m) := by
  induction entries generalizing m with
  | nil => rfl
  | cons e entries ih =>
    obtain ⟨⟨hp, hn⟩, hrest⟩ := List.forall_mem_cons.1 he
    rw [List.foldl_cons, List.map_cons, List.foldl_cons, h.mark_ofRound terminals m hp hn, ih _ hrest]

/-- The numbers of the heads stand beside the productions. -/
theorem nonTerminal?_of_mem_zip {e : NonTerminalId × Production}
    (he : e ∈ r.headIds.zip r.productions) :
    e.2 ∈ g.productions ∧ g.nonTerminal? e.1 = some e.2.head := by
  obtain ⟨i, hi⟩ := List.mem_iff_getElem?.1 he
  obtain ⟨hn, hp⟩ := List.getElem?_zip_eq_some.1 hi
  rw [h.productions] at hp
  rw [h.tables.headIds ⟨i⟩, Grammar.headId?_eq_some_iff] at hn
  obtain ⟨q, hq, hn⟩ := hn
  have hqp : q = e.2 := Option.some.inj (hq.symm.trans hp)
  exact ⟨List.mem_of_getElem? hp, hqp ▸ hn⟩

theorem map_snd_zip : (r.headIds.zip r.productions).map Prod.snd = g.productions := by
  have hlength : r.productions.length ≤ r.headIds.length := by
    by_contra hlt
    have hi : r.headIds.length < g.productions.length := by
      rw [← h.productions]
      omega
    obtain ⟨n, -, hn, -⟩ := Grammar.exists_headId? (i := ⟨r.headIds.length⟩)
      (List.getElem?_eq_getElem hi)
    rw [← h.tables.headIds, List.getElem?_eq_none (Nat.le_refl _)] at hn
    exact Option.some_ne_none n hn.symm
  rw [List.map_snd_zip hlength, h.productions]

theorem nextMarking_ofRound (terminals : Bool) (m : Saturation.Round) :
    r.nextMarking terminals (Marking.ofRound g m) =
      Marking.ofRound g (m.next terminals g.productions) := by
  have hpass := h.foldl_mark_ofRound terminals { m with changed := false }
    fun _ he => h.nonTerminal?_of_mem_zip he
  rw [h.map_snd_zip] at hpass
  cases hc : m.changed with
  | false =>
    rw [Saturation.Round.next_of_not_changed hc, nextMarking, Marking.ofRound, hc]
    rfl
  | true =>
    rw [nextMarking, Saturation.Round.next, if_pos hc, ← hpass]
    exact if_pos hc

theorem marking_eq (terminals : Bool) :
    r.marking terminals =
      Marking.ofRound g (.after terminals g.productions (g.productions.length + 1)) := by
  have hnext : Function.Semiconj (Marking.ofRound g) (.next terminals g.productions)
      (r.nextMarking terminals) := fun m => (h.nextMarking_ofRound terminals m).symm
  have hstart : Marking.mk (.replicate r.nonTerminals.length false) true =
      Marking.ofRound g ⟨[], true⟩ := by
    rw [h.tables.nonTerminals, Marking.ofRound, ← List.map_const']
    rfl
  rw [marking, hstart, h.productions, ← hnext.iterate_right]
  rfl

theorem changed_marking (terminals : Bool) : (r.marking terminals).changed = false := by
  rw [h.marking_eq]
  exact Saturation.Round.changed_after_length terminals g.productions

theorem isSet_marking (ha : g.nonTerminal? n = some a) (terminals : Bool) :
    isSet (r.marking terminals).flags n = true ↔ a ∈ Saturation.closure terminals g.productions := by
  have hleft := Saturation.Round.changed_after_length terminals g.productions
  rw [h.marking_eq, isSet_ofRound ha, Saturation.Round.marked_after_eq_closure _ hleft,
    List.contains_iff_mem]

/-- Each quality of a number is that of its non-terminal. -/
theorem has_iff (ha : g.nonTerminal? n = some a) (q : Quality) :
    r.has n q = true ↔ a ∈ g.having q := by
  cases q with
  | reachable => exact h.has_reachable_iff ha
  | productive => exact h.isSet_marking ha true
  | nullable => exact h.isSet_marking ha false

/-- So a survey of the grammar has an answer for the numbers in the tables, and answers as they do. -/
theorem holds?_survey (q : Quality) (n : NonTerminalId) :
    (Survey.of q g).holds? n = r.nonTerminals[n.toNat]?.map fun _ => r.has n q := by
  rw [Survey.holds?_of, h.getElem?_nonTerminals]
  cases ha : g.nonTerminal? n with
  | none => rfl
  | some a =>
    rw [Option.map_some, Option.map_some, Option.some_inj, Bool.eq_iff_iff, List.contains_iff_mem,
      h.has_iff ha]

end IsOf

end Record

end ContextFree
