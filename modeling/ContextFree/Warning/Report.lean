import ContextFree.Ascending
import ContextFree.Survey.Basic

/-! Structural warnings about a grammar, by kind and then by name, and the error that one becomes when it
is refused. -/
namespace ContextFree

inductive WarningKind where
  /-- The start has no productions. -/
  | missingStart
  /-- A body has a non-terminal without productions. -/
  | undefined
  | unreachable
  /-- No finite string of terminals can be derived. -/
  | unterminated
  /-- A normalization claims a non-terminal that no production has. -/
  | unknownIntroduced
deriving DecidableEq

namespace WarningKind

def all : List WarningKind :=
  [.missingStart, .undefined, .unreachable, .unterminated, .unknownIntroduced]

def rank : WarningKind → Nat
  | .missingStart => 0
  | .undefined => 1
  | .unreachable => 2
  | .unterminated => 3
  | .unknownIntroduced => 4

instance : Ord WarningKind := ⟨compareOn rank⟩

/-- The rank of a kind is its place among all kinds. -/
theorem getElem?_rank (k : WarningKind) : all[k.rank]? = some k := by
  cases k <;> rfl

instance : Std.TransOrd WarningKind :=
  inferInstanceAs (Std.TransCmp (compareOn rank))

instance : Std.LawfulEqOrd WarningKind where
  eq_of_compare {k l} h := by
    have hr : k.rank = l.rank := Std.LawfulEqOrd.eq_of_compare h
    have hk := getElem?_rank k
    rw [hr, getElem?_rank] at hk
    exact (Option.some.inj hk).symm

end WarningKind

structure Warning where
  kind : WarningKind
  subject : NonTerminal
deriving DecidableEq

def Warning.message (w : Warning) : String :=
  let a := w.subject.render
  match w.kind with
  | .missingStart => "Start non-terminal " ++ a ++ " has no productions"
  | .undefined => "Non-terminal " ++ a ++ " is used but has no productions"
  | .unreachable => "Non-terminal " ++ a ++ " is unreachable from the start non-terminal"
  | .unterminated => "Non-terminal " ++ a ++ " cannot derive a finite string of terminals"
  | .unknownIntroduced => "Normalization non-terminal " ++ a ++ " does not appear in the grammar"

inductive GrammarError where
  /-- A warning that counts as an error. -/
  | refused (w : Warning)
deriving DecidableEq

def GrammarError.message : GrammarError → String
  | .refused w => w.message

namespace Grammar

variable (g : Grammar)

/-- The non-terminals other than the start that have no productions, in ascending order. -/
def undefined : List NonTerminal :=
  ascending (g.nonTerminals.filter fun a => a ≠ g.start && !g.isDefined a)

/-- The non-terminals with productions that lack a quality, in ascending order. -/
def lacking (q : Quality) : List NonTerminal :=
  let survey := Survey.of q g
  ascending (g.nonTerminalIds.filterMap fun n =>
    (g.nonTerminal? n).filter fun a => g.isDefined a && survey.holds? n = some false)

def unreachable : List NonTerminal :=
  g.lacking .reachable

def unterminated : List NonTerminal :=
  g.lacking .productive

/-- The introduced non-terminals that no production mentions, in ascending order. -/
def unknownIntroduced : List NonTerminal :=
  ascending (g.introduced.filter fun a => !g.mentions a)

def warnings : List Warning :=
  (if g.isDefined g.start then [] else [⟨.missingStart, g.start⟩]) ++
    g.undefined.map (.mk .undefined) ++
    g.unreachable.map (.mk .unreachable) ++
    g.unterminated.map (.mk .unterminated) ++
    g.unknownIntroduced.map (.mk .unknownIntroduced)

end Grammar

structure WarningLog where
  warnings : List Warning
deriving DecidableEq

def WarningLog.add (l : WarningLog) (g : Grammar) : WarningLog :=
  { l with warnings := l.warnings ++ g.warnings }

end ContextFree
