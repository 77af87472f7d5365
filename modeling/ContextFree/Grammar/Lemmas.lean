import ContextFree.Grammar.Basic

/-! The numbering of non-terminals is a bijection, and alternatives are the productions of a head. -/
namespace ContextFree.Grammar

variable {g : Grammar} {a : NonTerminal} {n m : NonTerminalId} {i : ProductionId}

/-- A grammar is known from its productions, its start and what a normalization introduced. -/
theorem normalized_eq_self (g : Grammar) : normalized g.productions g.start g.introduced = g := by
  cases g with
  | mk productions start introduced nonTerminals nodup_introduced nonTerminals_eq =>
    subst nonTerminals_eq
    simp only [normalized, distinct_eq_self nodup_introduced]

theorem nodup_nonTerminals (g : Grammar) : g.nonTerminals.Nodup :=
  g.nonTerminals_eq ▸ nodup_distinct _

theorem mem_nonTerminals :
    a ∈ g.nonTerminals ↔ a = g.start ∨ ∃ p ∈ g.productions, p.head = a ∨ a ∈ p.nonTerminals := by
  simp [g.nonTerminals_eq, tableOf, Production.mentioned, @eq_comm _ a]

theorem head_mem_nonTerminals {p : Production} (hp : p ∈ g.productions) :
    p.head ∈ g.nonTerminals :=
  mem_nonTerminals.2 (.inr ⟨p, hp, .inl rfl⟩)

theorem mem_productionIds : i ∈ g.productionIds ↔ i.toNat < g.productions.length := by
  rw [productionIds, List.mem_map]
  constructor
  · rintro ⟨k, hk, rfl⟩
    exact List.mem_range.1 hk
  · intro h
    exact ⟨i.toNat, List.mem_range.2 h, rfl⟩

theorem mem_nonTerminalIds : n ∈ g.nonTerminalIds ↔ n.toNat < g.nonTerminals.length := by
  rw [nonTerminalIds, List.mem_map]
  constructor
  · rintro ⟨k, hk, rfl⟩
    exact List.mem_range.1 hk
  · intro h
    exact ⟨n.toNat, List.mem_range.2 h, rfl⟩

theorem mem_nonTerminalIds_of_eq_some (ha : g.nonTerminal? n = some a) : n ∈ g.nonTerminalIds :=
  mem_nonTerminalIds.2 (List.getElem?_eq_some_iff.1 ha).1

theorem pairwise_productionIds (g : Grammar) :
    g.productionIds.Pairwise fun i j => i.toNat < j.toNat := by
  rw [productionIds, List.pairwise_map]
  exact List.pairwise_lt_range

/-- Every non-terminal of the table has a number, and every production has one. -/
theorem exists_nonTerminal?_eq (h : a ∈ g.nonTerminals) :
    ∃ n ∈ g.nonTerminalIds, g.nonTerminal? n = some a := by
  obtain ⟨i, hi, he⟩ := List.mem_iff_getElem.1 h
  exact ⟨⟨i⟩, List.mem_map.2 ⟨i, List.mem_range.2 hi, rfl⟩, List.getElem?_eq_some_iff.2 ⟨hi, he⟩⟩

theorem exists_production?_eq {p : Production} (h : p ∈ g.productions) :
    ∃ i ∈ g.productionIds, g.production? i = some p := by
  obtain ⟨i, hi, he⟩ := List.mem_iff_getElem.1 h
  exact ⟨⟨i⟩, List.mem_map.2 ⟨i, List.mem_range.2 hi, rfl⟩, List.getElem?_eq_some_iff.2 ⟨hi, he⟩⟩

@[simp]
theorem nonTerminal?_startId (g : Grammar) : g.nonTerminal? startId = some g.start := by
  simp [nonTerminal?, startId, g.nonTerminals_eq, tableOf, distinct]

theorem id?_eq_some_iff : g.id? a = some n ↔ g.nonTerminal? n = some a := by
  rw [id?, nonTerminal?, Option.map_eq_some_iff]
  constructor
  · rintro ⟨i, hi, rfl⟩
    obtain ⟨h, he, -⟩ := List.findIdx?_eq_some_iff_getElem.1 hi
    exact List.getElem?_eq_some_iff.2 ⟨h, by simpa using he⟩
  · intro h
    obtain ⟨hn, he⟩ := List.getElem?_eq_some_iff.1 h
    refine ⟨n.toNat, List.findIdx?_eq_some_iff_getElem.2 ⟨hn, by simp [he], fun j hj => ?_⟩, rfl⟩
    have := List.pairwise_iff_getElem.1 g.nodup_nonTerminals j n.toNat (by omega) hn hj
    simpa [he] using this

theorem nonTerminal?_inj (hn : g.nonTerminal? n = some a) (hm : g.nonTerminal? m = some a) :
    n = m := by
  rw [← id?_eq_some_iff] at hn hm
  exact Option.some.inj (hn.symm.trans hm)

theorem eq_startId_iff (ha : g.nonTerminal? n = some a) : n = startId ↔ a = g.start := by
  constructor
  · intro hn
    rw [hn, nonTerminal?_startId] at ha
    exact (Option.some.inj ha).symm
  · intro he
    subst he
    exact nonTerminal?_inj ha (nonTerminal?_startId g)

theorem id?_eq_none_iff : g.id? a = none ↔ a ∉ g.nonTerminals := by
  simp [id?]

theorem headId?_eq_some_iff :
    g.headId? i = some n ↔ ∃ p, g.production? i = some p ∧ g.nonTerminal? n = some p.head := by
  rw [headId?, Option.bind_eq_some_iff]
  simp only [id?_eq_some_iff]

theorem exists_headId? {p : Production} (h : g.production? i = some p) :
    ∃ n ∈ g.nonTerminalIds, g.headId? i = some n ∧ g.nonTerminal? n = some p.head := by
  obtain ⟨n, hn, hp⟩ := exists_nonTerminal?_eq (head_mem_nonTerminals (List.mem_of_getElem? h))
  exact ⟨n, hn, headId?_eq_some_iff.2 ⟨p, h, hp⟩, hp⟩

/-- Numbering the entries that satisfy `c` and looking the numbers up keeps just those entries. -/
theorem filterMap_getElem?_zipIdx {α : Type} (c : α → Prop) [DecidablePred c] (before xs : List α) :
    ((xs.zipIdx before.length).filterMap fun (x, i) =>
        if c x then some (ProductionId.mk i) else none).filterMap
      (fun i => (before ++ xs)[i.toNat]?) = xs.filter c := by
  induction xs generalizing before with
  | nil => rfl
  | cons x xs ih =>
    have ih := ih (before ++ [x])
    rw [List.length_append, List.append_assoc] at ih
    by_cases h : c x
    · simpa [h] using ih
    · simpa [h] using ih

/-- The alternatives found by number are the productions with that head. -/
theorem alternatives_eq_filter (g : Grammar) (a : NonTerminal) :
    g.alternatives a = g.productions.filter (·.head = a) := by
  rw [alternatives]
  cases h : g.id? a with
  | none =>
    refine (List.filter_eq_nil_iff.2 fun p hp e => id?_eq_none_iff.1 h ?_).symm
    exact of_decide_eq_true e ▸ head_mem_nonTerminals hp
  | some n =>
    rw [Option.bind_some, alternativeIds?, id?_eq_some_iff.1 h, Option.map_some, Option.getD_some]
    exact filterMap_getElem?_zipIdx (fun p : Production => p.head = a) [] g.productions

theorem mem_alternatives {p : Production} :
    p ∈ g.alternatives a ↔ p ∈ g.productions ∧ p.head = a := by
  simp [alternatives_eq_filter]

theorem isDefined_iff : g.isDefined a = true ↔ ∃ p ∈ g.productions, p.head = a := by
  rw [isDefined, Bool.not_eq_true', List.isEmpty_eq_false_iff_exists_mem]
  simp only [mem_alternatives]

theorem isUsed_iff : g.isUsed a = true ↔ ∃ p ∈ g.productions, a ∈ p.nonTerminals := by
  simp [isUsed]

theorem isDefined_or_isUsed_iff :
    g.isDefined a = true ∨ g.isUsed a = true ↔
      ∃ p ∈ g.productions, p.head = a ∨ a ∈ p.nonTerminals := by
  rw [isDefined_iff, isUsed_iff]
  constructor
  · intro h
    rcases h with ⟨p, hp, h⟩ | ⟨p, hp, h⟩
    · exact ⟨p, hp, .inl h⟩
    · exact ⟨p, hp, .inr h⟩
  · intro h
    obtain ⟨p, hp, h | h⟩ := h
    · exact .inl ⟨p, hp, h⟩
    · exact .inr ⟨p, hp, h⟩

/-- The start is numbered even where no production mentions it; every other number is earned. -/
theorem mentions_iff :
    g.mentions a = true ↔ ∃ p ∈ g.productions, p.head = a ∨ a ∈ p.nonTerminals := by
  rw [mentions, ← isDefined_or_isUsed_iff]
  cases h : g.id? a with
  | none =>
    have ha := id?_eq_none_iff.1 h
    rw [mem_nonTerminals, ← isDefined_or_isUsed_iff, not_or] at ha
    simpa using ha.2
  | some n =>
    have ha : g.nonTerminal? n = some a := id?_eq_some_iff.1 h
    by_cases hn : n = startId
    · simp [hn]
    · have hs : a ≠ g.start := fun he => hn ((eq_startId_iff ha).2 he)
      have hm := (mem_nonTerminals.1 (List.mem_of_getElem? ha)).resolve_left hs
      simp [hn, isDefined_or_isUsed_iff.2 hm]

end ContextFree.Grammar
