import ContextFree.Warning.Report

/-! What happens to warnings: they are dropped, refused or collected. -/
namespace ContextFree

/-- Which kinds of warning are dropped, and whether every other one is an error. -/
structure WarningPolicy where
  strict : Bool
  allowed : List WarningKind
deriving DecidableEq

namespace WarningPolicy

inductive Setting where
  | strict
  | allow (k : WarningKind)
deriving DecidableEq

def apply (p : WarningPolicy) : Setting → WarningPolicy
  | .strict => { p with strict := true }
  | .allow k => { p with allowed := insertAscending k p.allowed }

/-- The settings are applied in turn to a policy that collects all warnings. -/
def ofSettings (settings : List Setting) : WarningPolicy :=
  settings.foldl apply ⟨false, []⟩

def collecting : WarningPolicy :=
  ofSettings []

def refusing : WarningPolicy :=
  ofSettings [.strict]

def allows (p : WarningPolicy) (k : WarningKind) : Bool :=
  p.allowed.contains k

end WarningPolicy

structure WarningCollector where
  policy : WarningPolicy
  warnings : List Warning
deriving DecidableEq

namespace WarningCollector

def ofPolicy (p : WarningPolicy) : WarningCollector :=
  ⟨p, []⟩

def receive (c : WarningCollector) (w : Warning) : Except GrammarError WarningCollector :=
  if c.policy.allows w.kind then .ok c
  else if c.policy.strict then .error (.refused w)
  else .ok { c with warnings := c.warnings ++ [w] }

/-- Receives warnings up to the first that is refused. -/
def receiveAll (c : WarningCollector) : List Warning → Option GrammarError × WarningCollector
  | [] => (none, c)
  | w :: ws =>
    match c.receive w with
    | .ok c => c.receiveAll ws
    | .error e => (some e, c)

def construct (c : WarningCollector) (productions : List Production) (start : NonTerminal) :
    Except GrammarError Grammar × WarningCollector :=
  let g := Grammar.ofProductions productions start
  match c.receiveAll g.warnings with
  | (none, c) => (.ok g, c)
  | (some e, c) => (.error e, c)

/-- Makes grammars in turn, each with the collector that the one before it left. The results come
with the collector after each. -/
def constructAll (c : WarningCollector) :
    List (List Production × NonTerminal) → List (Except GrammarError Grammar × WarningCollector)
  | [] => []
  | (productions, start) :: rest =>
    let (result, c) := c.construct productions start
    (result, c) :: c.constructAll rest

end WarningCollector

end ContextFree
