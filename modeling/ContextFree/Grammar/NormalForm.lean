import ContextFree.Grammar.Lemmas

/-! Chomsky normal form. The shape of a body shows in how many terminals and non-terminals it has. -/
namespace ContextFree

variable {start : NonTerminal} {p : Production} {g : Grammar} {i : ProductionId}

namespace Production

/-- A body of one terminal or of two non-terminals; the start may also have an empty body. -/
def isNormal (start : NonTerminal) (p : Production) : Bool :=
  match p.body with
  | [.terminal _] => true
  | [.nonTerminal _, .nonTerminal _] => true
  | [] => p.head = start
  | _ => false

def isBinary (p : Production) : Bool :=
  p.terminalCount = 0 && p.nonTerminalCount = 2

theorem isBinary_iff : p.isBinary = true ↔ p.terminalCount = 0 ∧ p.nonTerminalCount = 2 := by
  unfold isBinary
  rw [Bool.and_eq_true, decide_eq_true_eq, decide_eq_true_eq]

theorem isEmpty_iff_body : p.isEmpty = true ↔ p.body = [] :=
  List.isEmpty_iff

theorem isLexical_iff_body : p.isLexical = true ↔ ∃ t, p.body = [.terminal t] := by
  unfold isLexical
  split
  · next t hb => simp [hb]
  · next hne => simpa using hne

/-- The counts leave no room for a third symbol, and none for a terminal. -/
theorem isBinary_iff_body :
    p.isBinary = true ↔ ∃ b c, p.body = [.nonTerminal b, .nonTerminal c] := by
  rw [isBinary_iff]
  constructor
  · rintro ⟨ht, hn⟩
    have hlength : p.body.length = 2 := by rw [length_body, ht, hn]
    have hall : ∀ x ∈ p.body, ¬ x.isTerminal = true := List.countP_eq_zero.1 ht
    obtain ⟨x, rest, hb⟩ := List.exists_cons_of_length_eq_add_one hlength
    have hrest : rest.length = 1 := by simpa [hb] using hlength
    obtain ⟨y, rfl⟩ := List.length_eq_one_iff.1 hrest
    rw [hb, List.forall_mem_cons, List.forall_mem_singleton] at hall
    cases x with
    | terminal t => exact absurd rfl hall.1
    | nonTerminal b =>
      cases y with
      | terminal t => exact absurd rfl hall.2
      | nonTerminal c => exact ⟨b, c, hb⟩
  · rintro ⟨b, c, hb⟩
    unfold terminalCount nonTerminalCount
    rw [hb]
    exact ⟨rfl, rfl⟩

theorem isNormal_iff : p.isNormal start = true ↔
    p.isLexical = true ∨ p.isBinary = true ∨ p.isEmpty = true ∧ p.head = start := by
  rw [isLexical_iff_body, isBinary_iff_body, isEmpty_iff_body]
  unfold isNormal
  split
  · next t hb => simp [hb]
  · next b c hb => simp [hb]
  · next hb => simp [hb]
  · next hlexical hbinary hempty =>
    constructor
    · intro h
      cases h
    · rintro (⟨t, hb⟩ | ⟨b, c, hb⟩ | ⟨hb, -⟩)
      · exact absurd hb (hlexical t)
      · exact absurd hb (hbinary b c)
      · exact absurd hb hempty

end Production

namespace Grammar

def isNormal (g : Grammar) : Bool :=
  g.productions.all (Production.isNormal g.start)

/-- The productions that keep the grammar out of Chomsky normal form, in order. -/
def abnormalIds (g : Grammar) : List ProductionId :=
  g.productionIds.filter fun i => !(g.production? i).all (Production.isNormal g.start)

theorem isNormal_iff : g.isNormal = true ↔ ∀ p ∈ g.productions, p.isNormal g.start = true := by
  rw [isNormal, List.all_eq_true]

theorem mem_abnormalIds_iff :
    i ∈ g.abnormalIds ↔ ∃ p, g.production? i = some p ∧ p.isNormal g.start = false := by
  rw [abnormalIds, List.mem_filter, Bool.not_eq_true', mem_productionIds]
  constructor
  · rintro ⟨hi, hn⟩
    have hp : g.production? i = some g.productions[i.toNat] := List.getElem?_eq_getElem hi
    rw [hp, Option.all_some] at hn
    exact ⟨_, hp, hn⟩
  · rintro ⟨p, hp, hn⟩
    obtain ⟨hi, -⟩ := List.getElem?_eq_some_iff.1 hp
    rw [hp, Option.all_some]
    exact ⟨hi, hn⟩

/-- The productions that the abnormal numbers stand for. -/
theorem exists_mem_abnormalIds_iff :
    (∃ i ∈ g.abnormalIds, g.production? i = some p) ↔
      p ∈ g.productions ∧ p.isNormal g.start = false := by
  simp only [mem_abnormalIds_iff]
  constructor
  · rintro ⟨i, ⟨q, hq, hn⟩, hp⟩
    obtain rfl := Option.some.inj (hq.symm.trans hp)
    exact ⟨List.mem_of_getElem? hp, hn⟩
  · rintro ⟨hp, hn⟩
    obtain ⟨i, -, hi⟩ := exists_production?_eq hp
    exact ⟨i, ⟨p, hi, hn⟩, hi⟩

theorem pairwise_abnormalIds (g : Grammar) :
    g.abnormalIds.Pairwise fun i j => i.toNat < j.toNat :=
  g.pairwise_productionIds.filter _

theorem isNormal_iff_abnormalIds_eq_nil : g.isNormal = true ↔ g.abnormalIds = [] := by
  rw [isNormal_iff, List.eq_nil_iff_forall_not_mem]
  constructor
  · intro h i hi
    obtain ⟨p, hp, hn⟩ := mem_abnormalIds_iff.1 hi
    have hnormal := h p (List.mem_of_getElem? hp)
    exact Bool.noConfusion (hn.symm.trans hnormal)
  · intro h p hp
    apply eq_true_of_ne_false
    intro hn
    obtain ⟨i, hi, -⟩ := exists_mem_abnormalIds_iff.2 ⟨hp, hn⟩
    exact h i hi

end Grammar

end ContextFree
