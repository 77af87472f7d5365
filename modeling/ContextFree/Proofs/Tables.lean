import ContextFree.Grammar.Lemmas
import Mathlib.Data.List.Basic
import Mathlib.Data.List.Induction

/-! The loops that build the tables of a grammar. The first goes over the productions: it puts every new
non-terminal at the end of a table, and notes the place of each head. The second goes over the heads: it
puts each production at the end of the list of its head. The numbers of a grammar are read off these
tables. -/
namespace ContextFree

section

variable {α : Type} [DecidableEq α] {xs : List α} {x : α}

/-- The place of `x` in a table, and the table, which gets `x` at its end if `x` is new. -/
def enter (table : List α) (x : α) : Nat × List α :=
  match table.idxOf? x with
  | some i => (i, table)
  | none => (table.length, table ++ [x])

theorem idxOf?_eq_some_idxOf (h : x ∈ xs) : xs.idxOf? x = some (xs.idxOf x) := by
  obtain ⟨i, hi⟩ := Option.isSome_iff_exists.1 (List.isSome_idxOf?.2 h)
  rw [List.idxOf_eq_getD_idxOf?, hi, Option.getD_some]

theorem enter_distinct (xs : List α) (x : α) :
    enter (distinct xs) x = ((distinct (xs ++ [x])).idxOf x, distinct (xs ++ [x])) := by
  unfold enter
  rw [distinct_concat]
  by_cases hx : x ∈ xs
  · rw [if_pos hx, idxOf?_eq_some_idxOf (mem_distinct.2 hx)]
  · have hd : x ∉ distinct xs := fun h => hx (mem_distinct.1 h)
    have hi : (distinct xs).idxOf? x = none := List.idxOf?_eq_none_iff.2 hd
    rw [if_neg hx, hi, List.idxOf_append_of_notMem hd, List.idxOf_cons_self, Nat.add_zero]

theorem foldl_enter_distinct (xs ys : List α) :
    ys.foldl (fun table y => (enter table y).2) (distinct xs) = distinct (xs ++ ys) := by
  induction ys generalizing xs with
  | nil => rw [List.foldl_nil, List.append_nil]
  | cons y ys ih => rw [List.foldl_cons, enter_distinct, ih, ← List.append_cons]

/-- The place of a member stays the same when the table grows. -/
theorem idxOf_distinct_append (h : x ∈ xs) (ys : List α) :
    (distinct (xs ++ ys)).idxOf x = (distinct xs).idxOf x := by
  obtain ⟨zs, hz⟩ := isPrefix_distinct_append xs ys
  rw [← hz, List.idxOf_append_of_mem (mem_distinct.2 h)]

end

/-! ### The first loop -/

/-- What the first loop holds between two productions. -/
structure Numbering where
  nonTerminals : List NonTerminal
  headIds : List NonTerminalId
deriving DecidableEq

namespace Numbering

variable {start : NonTerminal} {ps : List Production} {p : Production}

def ofStart (start : NonTerminal) : Numbering :=
  ⟨[start], []⟩

/-- One production in its turn: its head, whose place is noted, and then its body. -/
def number (t : Numbering) (p : Production) : Numbering :=
  let (place, table) := enter t.nonTerminals p.head
  { nonTerminals := p.nonTerminals.foldl (fun table a => (enter table a).2) table
    headIds := t.headIds ++ [⟨place⟩] }

theorem tableOf_concat (start : NonTerminal) (ps : List Production) (p : Production) :
    tableOf start (ps ++ [p]) =
      distinct (start :: ps.flatMap Production.mentioned ++ [p.head] ++ p.nonTerminals) := by
  simp [tableOf, Production.mentioned]

theorem idxOf_tableOf_concat {a : NonTerminal} (ha : a = start ∨ ∃ q ∈ ps, a ∈ q.mentioned) :
    (tableOf start (ps ++ [p])).idxOf a = (tableOf start ps).idxOf a := by
  have hm : a ∈ start :: ps.flatMap Production.mentioned := by
    rwa [List.mem_cons, List.mem_flatMap]
  rw [tableOf_concat, List.append_assoc, idxOf_distinct_append hm, tableOf]

theorem number_tableOf (ids : List NonTerminalId) :
    number ⟨tableOf start ps, ids⟩ p =
      ⟨tableOf start (ps ++ [p]), ids ++ [⟨(tableOf start (ps ++ [p])).idxOf p.head⟩]⟩ := by
  have hhead : p.head ∈ start :: ps.flatMap Production.mentioned ++ [p.head] :=
    List.mem_append_right _ List.mem_cons_self
  rw [number, tableOf, enter_distinct, tableOf_concat, idxOf_distinct_append hhead]
  dsimp only
  rw [foldl_enter_distinct]

/-- After the last production the table is complete, and each head has its place in it. -/
theorem foldl_number (start : NonTerminal) (ps : List Production) :
    ps.foldl number (.ofStart start) =
      ⟨tableOf start ps, ps.map fun p => ⟨(tableOf start ps).idxOf p.head⟩⟩ := by
  induction ps using List.reverseRecOn with
  | nil => rfl
  | append_singleton ps p ih =>
    have hold : ∀ q ∈ ps, (tableOf start (ps ++ [p])).idxOf q.head = (tableOf start ps).idxOf q.head :=
      fun q hq => idxOf_tableOf_concat (.inr ⟨q, hq, List.mem_cons_self⟩)
    rw [List.foldl_concat, ih, number_tableOf, List.map_append, List.map_singleton]
    congr 2
    exact List.map_congr_left fun q hq => congrArg NonTerminalId.mk (hold q hq).symm

end Numbering

/-! ### The second loop -/

/-- Puts a production at the end of the list of its head. -/
def fileUnder (lists : List (List ProductionId)) (entry : NonTerminalId × Nat) :
    List (List ProductionId) :=
  lists.modify entry.1.toNat (· ++ [⟨entry.2⟩])

theorem getElem?_foldl_fileUnder (entries : List (NonTerminalId × Nat))
    (lists : List (List ProductionId)) (n : Nat) :
    (entries.foldl fileUnder lists)[n]? = lists[n]?.map (· ++ entries.filterMap fun (m, i) =>
      if m.toNat = n then some (ProductionId.mk i) else none) := by
  induction entries generalizing lists with
  | nil => simp
  | cons entry entries ih =>
    obtain ⟨m, i⟩ := entry
    rw [List.foldl_cons, ih, fileUnder, List.getElem?_modify]
    by_cases hm : m.toNat = n
    · cases lists[n]? <;> simp [hm]
    · cases lists[n]? <;> simp [hm]

theorem length_foldl_fileUnder (entries : List (NonTerminalId × Nat))
    (lists : List (List ProductionId)) : (entries.foldl fileUnder lists).length = lists.length := by
  induction entries generalizing lists with
  | nil => rfl
  | cons entry entries ih => rw [List.foldl_cons, ih, fileUnder, List.length_modify]

structure Tables where
  nonTerminals : List NonTerminal
  /-- For each production the number of its head. -/
  headIds : List NonTerminalId
  /-- For each non-terminal the productions whose head it is. -/
  alternativeIds : List (List ProductionId)
deriving DecidableEq

namespace Tables

/-- The tables that the two loops leave. -/
def build (start : NonTerminal) (productions : List Production) : Tables :=
  let numbering := productions.foldl Numbering.number (.ofStart start)
  let lists := List.replicate numbering.nonTerminals.length []
  { nonTerminals := numbering.nonTerminals
    headIds := numbering.headIds
    alternativeIds := numbering.headIds.zipIdx.foldl fileUnder lists }

/-- Every query about numbers is a look into the tables, and no head of the second loop is without a
list. -/
structure Answers (t : Tables) (g : Grammar) : Prop where
  nonTerminals : t.nonTerminals = g.nonTerminals
  headIds : ∀ i : ProductionId, t.headIds[i.toNat]? = g.headId? i
  alternativeIds : ∀ n : NonTerminalId, t.alternativeIds[n.toNat]? = g.alternativeIds? n
  lt_length : ∀ n ∈ t.headIds, n.toNat < t.alternativeIds.length

variable {g : Grammar}

theorem id?_eq_some_idxOf {a : NonTerminal} (h : a ∈ g.nonTerminals) :
    g.id? a = some ⟨g.nonTerminals.idxOf a⟩ := by
  rw [Grammar.id?, idxOf?_eq_some_idxOf h, Option.map_some]

theorem build_eq (g : Grammar) :
    build g.start g.productions =
      let heads := g.productions.map fun p => NonTerminalId.mk (g.nonTerminals.idxOf p.head)
      { nonTerminals := g.nonTerminals
        headIds := heads
        alternativeIds := heads.zipIdx.foldl fileUnder (.replicate g.nonTerminals.length []) } := by
  unfold build
  rw [Numbering.foldl_number, ← g.nonTerminals_eq]

theorem getElem?_headIds_build (i : ProductionId) :
    (build g.start g.productions).headIds[i.toNat]? = g.headId? i := by
  rw [build_eq, List.getElem?_map, Grammar.headId?, Grammar.production?]
  cases h : g.productions[i.toNat]? with
  | none => rfl
  | some p =>
    have hp : p.head ∈ g.nonTerminals := Grammar.head_mem_nonTerminals (List.mem_of_getElem? h)
    rw [Option.map_some, Option.bind_some, id?_eq_some_idxOf hp]

theorem getElem?_alternativeIds_build (n : NonTerminalId) :
    (build g.start g.productions).alternativeIds[n.toNat]? = g.alternativeIds? n := by
  rw [build_eq, getElem?_foldl_fileUnder, Grammar.alternativeIds?, List.getElem?_replicate]
  cases ha : g.nonTerminal? n with
  | none =>
    have hn : g.nonTerminals.length ≤ n.toNat := List.getElem?_eq_none_iff.1 ha
    rw [if_neg (by omega)]
    rfl
  | some a =>
    have hn : n.toNat < g.nonTerminals.length := (List.getElem?_eq_some_iff.1 ha).1
    rw [if_pos hn, Option.map_some, Option.map_some, List.nil_append, List.zipIdx_map,
      List.filterMap_map]
    congr 1
    apply List.filterMap_congr
    intro entry hp
    obtain ⟨p, i⟩ := entry
    have hm : p.head ∈ g.nonTerminals :=
      Grammar.head_mem_nonTerminals (List.fst_mem_of_mem_zipIdx hp)
    -- One number is one non-terminal.
    have he : g.nonTerminals.idxOf p.head = n.toNat ↔ p.head = a := by
      have hid : g.id? p.head = some n ↔ g.nonTerminal? n = some p.head := Grammar.id?_eq_some_iff
      cases n
      rw [id?_eq_some_idxOf hm, ha, Option.some_inj, Option.some_inj, NonTerminalId.mk.injEq] at hid
      rw [hid, eq_comm]
    simp [he]

theorem answers_build (g : Grammar) : (build g.start g.productions).Answers g where
  nonTerminals := congrArg Tables.nonTerminals (build_eq g)
  headIds _ := getElem?_headIds_build _
  alternativeIds _ := getElem?_alternativeIds_build _
  lt_length n hn := by
    rw [build_eq, List.mem_map] at hn
    obtain ⟨p, hp, rfl⟩ := hn
    rw [build_eq, length_foldl_fileUnder, List.length_replicate, List.idxOf_lt_length_iff]
    exact Grammar.head_mem_nonTerminals hp

/-- The start is numbered first, though nothing mentions it, and `B` before the head that comes later. -/
example : build ⟨"S"⟩ [⟨⟨"A"⟩, [.nonTerminal ⟨"B"⟩]⟩, ⟨⟨"C"⟩, []⟩, ⟨⟨"A"⟩, []⟩] =
    { nonTerminals := [⟨"S"⟩, ⟨"A"⟩, ⟨"B"⟩, ⟨"C"⟩]
      headIds := [⟨1⟩, ⟨3⟩, ⟨1⟩]
      alternativeIds := [[], [⟨0⟩, ⟨2⟩], [], [⟨1⟩]] } := by
  decide

end Tables

end ContextFree
