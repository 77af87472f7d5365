import ContextFree.Proofs.Tables
import Mathlib.Data.List.Nodup
import Mathlib.Data.List.Perm.Basic

/-! The numbers of a grammar. Non-terminals are numbered in order of first appearance, productions
in order, and the alternatives of all non-terminals have each production once. The tables that a grammar
is made with say the same. -/
namespace ContextFree

/-- A list without repeats keeps the order in which its members appear first. -/
theorem pairwise_idxOf_distinct {α : Type} [DecidableEq α] (xs : List α) :
    (distinct xs).Pairwise fun x y => xs.idxOf x < xs.idxOf y := by
  induction xs with
  | nil => exact .nil
  | cons z xs ih =>
    have hne : ∀ x ∈ (distinct xs).filter (· ≠ z), (z :: xs).idxOf x = xs.idxOf x + 1 := by
      intro x hx
      have hx : x ≠ z := by simpa using (List.mem_filter.1 hx).2
      exact List.idxOf_cons_ne xs hx.symm
    refine List.pairwise_cons.2 ⟨fun x hx => ?_, (ih.filter _).imp_of_mem fun hx hy h => ?_⟩
    · rw [List.idxOf_cons_self, hne x hx]
      omega
    · rw [hne _ hx, hne _ hy]
      omega

section

variable {α κ : Type} [DecidableEq κ] {key : α → κ} {keys : List κ} {xs : List α}

theorem flatMap_singleton_of_mem {k : κ} (x : α) (hd : keys.Nodup) (hk : k ∈ keys) :
    (keys.flatMap fun j => if k = j then [x] else []) = [x] := by
  induction keys with
  | nil => cases hk
  | cons j keys ih =>
    obtain ⟨hj, hd⟩ := List.nodup_cons.1 hd
    rw [List.flatMap_cons]
    by_cases h : k = j
    · -- No later key is `k`.
      have hrest : (keys.flatMap fun j => if k = j then [x] else []) = [] := by
        rw [List.flatMap_eq_nil_iff]
        intro i hi
        have hne : k ≠ i := by
          rintro rfl
          exact hj (h ▸ hi)
        rw [if_neg hne]
      rw [if_pos h, hrest, List.append_nil]
    · rw [if_neg h, List.nil_append, ih hd ((List.mem_cons.1 hk).resolve_left h)]

/-- Sorting the members of a list by key loses none and repeats none. -/
theorem flatMap_filter_perm (hd : keys.Nodup) (hk : ∀ x ∈ xs, key x ∈ keys) :
    (keys.flatMap fun k => xs.filter (key · = k)).Perm xs := by
  induction xs with
  | nil => simp
  | cons x xs ih =>
    obtain ⟨hx, hxs⟩ := List.forall_mem_cons.1 hk
    have hcons : ∀ k, (x :: xs).filter (key · = k) =
        (if key x = k then [x] else []) ++ xs.filter (key · = k) := by
      intro k
      by_cases h : key x = k <;> simp [h]
    have hsplit := List.flatMap_append_perm keys (fun k => if key x = k then [x] else [])
      fun k => xs.filter (key · = k)
    rw [flatMap_singleton_of_mem x hd hx] at hsplit
    simp only [hcons]
    exact hsplit.symm.trans ((ih hxs).cons x)

end

namespace Grammar

variable {g : Grammar} {a : NonTerminal} {n : NonTerminalId} {i : ProductionId}

theorem nodup_nonTerminalIds (g : Grammar) : g.nonTerminalIds.Nodup := by
  rw [nonTerminalIds]
  exact List.Nodup.map (fun _ _ h => congrArg NonTerminalId.toNat h) List.nodup_range

theorem filterMap_zipIdx_eq_filter (c : Production → Prop) [DecidablePred c]
    (before ps : List Production) :
    ((ps.zipIdx before.length).filterMap fun (p, i) =>
        if c p then some (ProductionId.mk i) else none) =
      ((List.range' before.length ps.length).map .mk).filter fun i =>
        ((before ++ ps)[i.toNat]?).any (c ·) := by
  induction ps generalizing before with
  | nil => rfl
  | cons p ps ih =>
    have ih := ih (before ++ [p])
    rw [List.length_append, List.append_assoc] at ih
    by_cases h : c p
    · simpa [List.range'_succ, h] using ih
    · simpa [List.range'_succ, h] using ih

/-- The alternatives of a non-terminal are the productions, in order, that have its number. -/
theorem alternativeIds?_eq_filter (hn : n ∈ g.nonTerminalIds) :
    g.alternativeIds? n = some (g.productionIds.filter (g.headId? · = some n)) := by
  obtain ⟨a, ha⟩ : ∃ a, g.nonTerminal? n = some a :=
    ⟨_, List.getElem?_eq_getElem (mem_nonTerminalIds.1 hn)⟩
  have hkey : ∀ i, ((g.production? i).any fun p => p.head = a) =
      decide (g.headId? i = some n) := by
    intro i
    rw [Bool.eq_iff_iff, decide_eq_true_eq, headId?_eq_some_iff, Option.any_eq_true, ha]
    simp [eq_comm]
  have hfilter := filterMap_zipIdx_eq_filter (fun p => p.head = a) [] g.productions
  rw [List.length_nil, List.nil_append, ← List.range_eq_range'] at hfilter
  rw [alternativeIds?, ha, Option.map_some, hfilter]
  simp only [← hkey]
  rfl

theorem exists_alternativeIds? (hn : n ∈ g.nonTerminalIds) :
    ∃ is, g.alternativeIds? n = some is ∧ is.Pairwise (fun i j => i.toNat < j.toNat) ∧
      ∀ i, i ∈ is ↔ g.headId? i = some n := by
  refine ⟨_, alternativeIds?_eq_filter hn, g.pairwise_productionIds.filter _, fun i => ?_⟩
  rw [List.mem_filter, decide_eq_true_eq]
  refine ⟨And.right, fun h => ⟨?_, h⟩⟩
  obtain ⟨p, hp, -⟩ := headId?_eq_some_iff.1 h
  exact mem_productionIds.2 (List.getElem?_eq_some_iff.1 hp).1

theorem flatMap_alternativeIds?_perm (g : Grammar) :
    (g.nonTerminalIds.flatMap fun n => (g.alternativeIds? n).getD []).Perm g.productionIds := by
  have hd : (g.nonTerminalIds.map some).Nodup :=
    List.Nodup.map (fun _ _ h => Option.some.inj h) g.nodup_nonTerminalIds
  have hkeys : ∀ i ∈ g.productionIds, g.headId? i ∈ g.nonTerminalIds.map some := by
    intro i hi
    obtain ⟨n, hn, hp, -⟩ := exists_headId? (List.getElem?_eq_getElem (mem_productionIds.1 hi))
    exact List.mem_map.2 ⟨n, hn, hp.symm⟩
  have hperm := flatMap_filter_perm hd hkeys
  rw [List.flatMap_map] at hperm
  refine List.Perm.trans (.of_eq (List.flatMap_congr fun n hn => ?_)) hperm
  rw [alternativeIds?_eq_filter hn, Option.getD_some]

theorem exists_mentioned_iff {ps : List Production} :
    (∃ p ∈ ps, a ∈ p.mentioned) ↔ ∃ p ∈ ps, p.head = a ∨ a ∈ p.nonTerminals := by
  simp only [Production.mentioned, List.mem_cons, @eq_comm _ a]

theorem mem_nonTerminals_iff_mentioned :
    a ∈ g.nonTerminals ↔ a = g.start ∨ ∃ p ∈ g.productions, a ∈ p.mentioned := by
  rw [mem_nonTerminals, exists_mentioned_iff]

theorem id?_eq_none_iff_not_mentioned :
    g.id? a = none ↔ a ≠ g.start ∧ ∀ p ∈ g.productions, a ∉ p.mentioned := by
  rw [id?_eq_none_iff, mem_nonTerminals_iff_mentioned, not_or]
  simp only [not_exists, not_and, ne_eq]

/-- What the numbers of a grammar with this start and these productions say. -/
structure IsNumbered (g : Grammar) (start : NonTerminal) (productions : List Production) :
    Prop where
  start_first : g.nonTerminal? startId = some start
  nodup : g.nonTerminals.Nodup
  mem_iff : ∀ a, a ∈ g.nonTerminals ↔ a = start ∨ ∃ p ∈ productions, a ∈ p.mentioned
  /-- By first appearance in the start and then, production by production, head and body. -/
  order : g.nonTerminals.Pairwise fun a b =>
    (start :: productions.flatMap Production.mentioned).idxOf a <
      (start :: productions.flatMap Production.mentioned).idxOf b
  inverse : ∀ a n, g.id? a = some n ↔ g.nonTerminal? n = some a
  unnumbered : ∀ a, g.id? a = none ↔ a ≠ start ∧ ∀ p ∈ productions, a ∉ p.mentioned
  head : ∀ i p, productions[i.toNat]? = some p →
    ∃ n, g.headId? i = some n ∧ g.nonTerminal? n = some p.head
  /-- A number of a non-terminal has just the productions whose head it is, in order. -/
  alternativeIds : ∀ n, n.toNat < g.nonTerminals.length → ∃ is, g.alternativeIds? n = some is ∧
    is.Pairwise (fun i j => i.toNat < j.toNat) ∧ ∀ i, i ∈ is ↔ g.headId? i = some n
  /-- No production is left out, and none has two numbers for its head. -/
  partition : (g.nonTerminalIds.flatMap fun n => (g.alternativeIds? n).getD []).Perm
    ((List.range productions.length).map .mk)
  alternatives : ∀ a, g.alternatives a = productions.filter (·.head = a)
  mentions : ∀ a, g.mentions a = true ↔ ∃ p ∈ productions, a ∈ p.mentioned
  /-- The loops over the productions leave tables that say all this. -/
  tables : (Tables.build start productions).Answers g

/-- Every grammar is made from its start and productions, also one that was read, so every one is
numbered by them. -/
theorem isNumbered_normalized :
    (∀ productions start introduced,
      IsNumbered (normalized productions start introduced) start productions) ∧
    ∀ g : Grammar, normalized g.productions g.start g.introduced = g := by
  refine ⟨fun productions start introduced => ?_, normalized_eq_self⟩
  let g := normalized productions start introduced
  exact {
    start_first := g.nonTerminal?_startId
    nodup := g.nodup_nonTerminals
    mem_iff := fun _ => mem_nonTerminals_iff_mentioned
    order := pairwise_idxOf_distinct _
    inverse := fun _ _ => id?_eq_some_iff
    unnumbered := fun _ => id?_eq_none_iff_not_mentioned
    head := fun _ _ hp =>
      let ⟨n, _, hn⟩ := exists_headId? (g := g) hp
      ⟨n, hn⟩
    alternativeIds := fun _ hn => exists_alternativeIds? (mem_nonTerminalIds.2 hn)
    partition := g.flatMap_alternativeIds?_perm
    alternatives := g.alternatives_eq_filter
    mentions := fun _ => mentions_iff.trans exists_mentioned_iff.symm
    tables := Tables.answers_build g }

end Grammar

end ContextFree
