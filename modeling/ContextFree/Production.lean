import ContextFree.Symbol

/-! Productions: a non-terminal and one sequence of symbols that it may be replaced by. -/
namespace ContextFree

structure Production where
  head : NonTerminal
  body : List Symbol
deriving DecidableEq

namespace Production

def isEmpty (p : Production) : Bool :=
  p.body.isEmpty

def isLexical (p : Production) : Bool :=
  match p.body with
  | [.terminal _] => true
  | _ => false

def terminalCount (p : Production) : Nat :=
  p.body.countP Symbol.isTerminal

def nonTerminalCount (p : Production) : Nat :=
  p.body.countP Symbol.isNonTerminal

def terminals (p : Production) : List Terminal :=
  p.body.filterMap Symbol.terminal?

/-- The non-terminals of the body, in order and with repeats. -/
def nonTerminals (p : Production) : List NonTerminal :=
  p.body.filterMap Symbol.nonTerminal?

/-- The symbols of the body; an empty body is written as an empty literal. -/
def renderBody (p : Production) : String :=
  if p.body.isEmpty then quote "" else " ".intercalate (p.body.map Symbol.render)

def render (p : Production) : String :=
  p.head.render ++ " ::= " ++ p.renderBody

theorem mem_nonTerminals {p : Production} {a : NonTerminal} :
    a ∈ p.nonTerminals ↔ Symbol.nonTerminal a ∈ p.body := by
  simp only [nonTerminals, List.mem_filterMap]
  constructor
  · intro h
    obtain ⟨s, hs, he⟩ := h
    cases s with
    | terminal t => cases he
    | nonTerminal b => cases he; exact hs
  · intro h
    exact ⟨_, h, rfl⟩

theorem length_body (p : Production) :
    p.body.length = p.terminalCount + p.nonTerminalCount := by
  rw [terminalCount, nonTerminalCount, List.length_eq_countP_add_countP Symbol.isTerminal]
  congr 2
  funext s
  cases s <;> rfl

end Production

/-- By head, then by body symbol by symbol; a body that continues another is above it. -/
instance : Ord Production :=
  ⟨compareLex (compareOn Production.head) (compareOn Production.body)⟩

instance : Std.TransOrd Production :=
  inferInstanceAs (Std.TransCmp (compareLex (compareOn Production.head) (compareOn Production.body)))

instance : Std.LawfulEqOrd Production where
  eq_of_compare {p q} h := by
    obtain ⟨hh, hb⟩ := Ordering.then_eq_eq.1 h
    cases p; cases q
    rw [Production.mk.injEq]
    exact ⟨Std.LawfulEqOrd.eq_of_compare hh, Std.LawfulEqOrd.eq_of_compare hb⟩

end ContextFree
