import ContextFree.Grammar.Basic
import ContextFree.Survey.Saturation
import ContextFree.Survey.Search

/-! Which non-terminals are reachable from the start or from one another, and which derive a finite
string of terminals, or the empty string; and such a quality judged for each number of a grammar. -/
namespace ContextFree

namespace Grammar

variable (g : Grammar)

def successors (a : NonTerminal) : List NonTerminal :=
  (g.alternatives a).flatMap Production.nonTerminals

def reachable : List NonTerminal :=
  Search.found g.successors g.nonTerminals g.start

/-- Whether one step or more from a head into a body lead from `a` to `b`. -/
def leadsTo (a b : NonTerminal) : Bool :=
  Search.hasPath g.successors g.nonTerminals a b

/-- The non-terminals with a body of terminals and productive non-terminals. -/
def productive : List NonTerminal :=
  Saturation.closure true g.productions

/-- The non-terminals with a body of nullable non-terminals only. A terminal is never null, not even
one with an empty value. -/
def nullable : List NonTerminal :=
  Saturation.closure false g.productions

end Grammar

inductive Quality where
  /-- The start, or in a body of a reachable non-terminal. -/
  | reachable
  /-- Derives a finite string of terminals. -/
  | productive
  /-- Derives the empty string. -/
  | nullable
deriving DecidableEq

def Grammar.having (g : Grammar) : Quality → List NonTerminal
  | .reachable => g.reachable
  | .productive => g.productive
  | .nullable => g.nullable

/-- One flag for each number of a non-terminal. -/
structure Survey where
  flags : List Bool
deriving DecidableEq

namespace Survey

/-- Judges a grammar anew: no flag of an earlier grammar is kept. -/
def update (q : Quality) (s : Survey) (g : Grammar) : Survey :=
  let marked := g.having q
  { s with flags := g.nonTerminals.map fun a => marked.contains a }

def of (q : Quality) (g : Grammar) : Survey :=
  update q ⟨[]⟩ g

/-- No answer for a number that the grammar does not have. -/
def holds? (s : Survey) (n : NonTerminalId) : Option Bool :=
  s.flags[n.toNat]?

theorem holds?_of (q : Quality) (g : Grammar) (n : NonTerminalId) :
    (of q g).holds? n = (g.nonTerminal? n).map ((g.having q).contains ·) :=
  List.getElem?_map

end Survey

namespace Grammar

variable (g : Grammar)

/-- Whether `a` derives the empty string; false if the grammar does not name `a`. -/
def isNullable (a : NonTerminal) : Bool :=
  ((g.id? a).bind (Survey.of .nullable g).holds?).getD false

def generatesEmpty : Bool :=
  ((Survey.of .nullable g).holds? startId).getD false

end Grammar

end ContextFree
