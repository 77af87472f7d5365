import ContextFree.Ascending
import ContextFree.Production
import ContextFree.Text.Bytes

/-! The order of productions: by head, then by body symbol by symbol, down to the bytes of the names and
values. It is a strict total order, so a set of productions has one ascending list. -/
namespace ContextFree

variable {p q : Production}

theorem compare_string_eq_lt_iff {s t : String} :
    compare s t = .lt ↔ Text.bytes s < Text.bytes t := by
  rw [Text.bytes_lt_iff]
  exact compareOfLessAndEq_eq_lt

/-- Two lists are compared where they first differ; one that has ended there is below the other. -/
theorem compare_list_eq_lt_iff {α : Type} [Ord α] [Std.LawfulEqOrd α] {xs ys : List α} :
    compare xs ys = .lt ↔ List.Lex (fun x y => compare x y = .lt) xs ys := by
  induction xs generalizing ys with
  | nil => cases ys <;> simp
  | cons x xs ih =>
    cases ys with
    | nil => simp
    | cons y ys =>
      rw [List.compare_cons_cons, Ordering.then_eq_lt, List.cons_lex_cons_iff, ih,
        Std.LawfulEqOrd.compare_eq_iff_eq]

/-- Terminals are below non-terminals, and within a kind the bytes decide. -/
inductive Symbol.Below : Symbol → Symbol → Prop
  | terminal {s t : Terminal} : Text.bytes s.value < Text.bytes t.value →
    Below (.terminal s) (.terminal t)
  | kinds (t : Terminal) (a : NonTerminal) : Below (.terminal t) (.nonTerminal a)
  | nonTerminal {a b : NonTerminal} : Text.bytes a.name < Text.bytes b.name →
    Below (.nonTerminal a) (.nonTerminal b)

theorem Symbol.compare_eq_lt_iff {x y : Symbol} : compare x y = .lt ↔ x.Below y := by
  cases x with
  | terminal s =>
    cases y with
    | terminal t =>
      have h : compare s.value t.value = .lt ↔ _ := compare_string_eq_lt_iff
      exact h.trans ⟨.terminal, fun | .terminal hst => hst⟩
    | nonTerminal b => exact ⟨fun _ => .kinds s b, fun _ => rfl⟩
  | nonTerminal a =>
    cases y with
    | terminal t => exact ⟨fun h => Ordering.noConfusion h, fun h => nomatch h⟩
    | nonTerminal b =>
      have h : compare a.name b.name = .lt ↔ _ := compare_string_eq_lt_iff
      exact h.trans ⟨.nonTerminal, fun | .nonTerminal hab => hab⟩

namespace Production

/-- The heads decide, and under one head the bodies do, symbol by symbol. -/
def Below (p q : Production) : Prop :=
  Text.bytes p.head.name < Text.bytes q.head.name ∨
    p.head = q.head ∧ List.Lex Symbol.Below p.body q.body

theorem compare_eq_lt_iff : compare p q = .lt ↔ p.Below q := by
  have hheads : compareOn Production.head p q = .lt ↔
      Text.bytes p.head.name < Text.bytes q.head.name :=
    compare_string_eq_lt_iff
  have hsame : compareOn Production.head p q = .eq ↔ p.head = q.head :=
    Std.LawfulEqOrd.compare_eq_iff_eq
  have hbodies : compareOn Production.body p q = .lt ↔ List.Lex Symbol.Below p.body q.body := by
    have hbelow : (fun x y : Symbol => compare x y = .lt) = Symbol.Below := by
      funext x y
      exact propext Symbol.compare_eq_lt_iff
    rw [← hbelow]
    exact compare_list_eq_lt_iff
  change (compareLex _ _ p q) = .lt ↔ _
  rw [compareLex, Ordering.then_eq_lt, hheads, hsame, hbodies, Below]

end Production

/-- Productions are in a strict total order: by the bytes of the heads, then by the bodies. The bytes of two
texts are in the order of their code points. All lists with the same productions in them are one list when
they are sorted and rid of repeats: the only ascending one with these members. -/
theorem compare_production :
    (∀ p q : Production, compare p q = .eq ↔ p = q) ∧
    (∀ p q : Production, compare q p = (compare p q).swap) ∧
    (∀ p q r : Production, compare p q = .lt → compare q r = .lt → compare p r = .lt) ∧
    (∀ p q : Production, compare p q = .lt ↔ p.Below q) ∧
    (∀ s t : String, Text.bytes s < Text.bytes t ↔ Text.codePoints s < Text.codePoints t) ∧
    (∀ ps qs : List Production, qs = ascending ps ↔ IsAscending qs ∧ ∀ p, p ∈ qs ↔ p ∈ ps) ∧
    ∀ ps qs : List Production, ascending ps = ascending qs ↔ ∀ p, p ∈ ps ↔ p ∈ qs := by
  refine ⟨fun p q => Std.LawfulEqOrd.compare_eq_iff_eq, fun p q => Std.OrientedOrd.eq_swap,
    fun p q r => Std.TransCmp.lt_trans, fun p q => Production.compare_eq_lt_iff, fun s t => ?_,
    fun ps qs => eq_ascending_iff, fun ps qs => ascending_eq_iff⟩
  rw [Text.bytes_lt_iff, Text.codePoints_lt_iff]

/-- A body, one that continues it, and one that has a non-terminal first; and two texts of which the second
has the greater code point, but not the greater first UTF-16 unit. -/
theorem compare_production_of_bodies :
    let p : Production := ⟨⟨"S"⟩, [.terminal ⟨"b"⟩]⟩
    let q : Production := ⟨⟨"S"⟩, [.terminal ⟨"b"⟩, .terminal ⟨"a"⟩]⟩
    let r : Production := ⟨⟨"S"⟩, [.nonTerminal ⟨""⟩]⟩
    compare p q = .lt ∧ compare q r = .lt ∧ compare p r = .lt ∧ compare r p = .gt ∧
      Text.bytes "\uffff" < Text.bytes "😀" ∧ ascending [r, q, p, q] = [p, q, r] := by
  intro p q r
  obtain ⟨-, hswap, htrans, hbelow, hbytes, hascending, -⟩ := compare_production
  have hpq : compare p q = .lt := (hbelow p q).2 (.inr ⟨rfl, .cons .nil⟩)
  have hqr : compare q r = .lt := (hbelow q r).2 (.inr ⟨rfl, .rel (.kinds _ _)⟩)
  have hpr : compare p r = .lt := htrans p q r hpq hqr
  have hrp : compare r p = .gt := by rw [hswap p r, hpr]; rfl
  refine ⟨hpq, hqr, hpr, hrp, (hbytes _ _).2 (.rel (by decide)),
    ((hascending _ _).2 ⟨?_, ?_⟩).symm⟩
  · simp [IsAscending, hpq, hqr, hpr]
  · grind

end ContextFree
