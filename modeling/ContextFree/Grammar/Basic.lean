import ContextFree.Distinct
import ContextFree.Production

/-! Context-free grammars, with a numbering of their non-terminals and productions. -/
namespace ContextFree

structure NonTerminalId where
  toNat : Nat
deriving DecidableEq

structure ProductionId where
  toNat : Nat
deriving DecidableEq

instance : Ord NonTerminalId := ⟨compareOn NonTerminalId.toNat⟩

instance : Ord ProductionId := ⟨compareOn ProductionId.toNat⟩

def NonTerminalId.render (n : NonTerminalId) : String :=
  toString n.toNat

def ProductionId.render (i : ProductionId) : String :=
  toString i.toNat

def Production.mentioned (p : Production) : List NonTerminal :=
  p.head :: p.nonTerminals

/-- The start, then every other non-terminal in order of first appearance. -/
def tableOf (start : NonTerminal) (productions : List Production) : List NonTerminal :=
  distinct (start :: productions.flatMap Production.mentioned)

/-- Productions keep their order and repeats. Several may share a head: they are alternatives. -/
structure Grammar where
  productions : List Production
  start : NonTerminal
  /-- The non-terminals that a normalization introduced, which need not occur in a production. -/
  introduced : List NonTerminal
  /-- Every non-terminal, by its number. -/
  nonTerminals : List NonTerminal
  nodup_introduced : introduced.Nodup
  nonTerminals_eq : nonTerminals = tableOf start productions
deriving DecidableEq

namespace Grammar

/-- The grammar that a normalization made; repeats among the non-terminals it introduced are
dropped. -/
def normalized (productions : List Production) (start : NonTerminal)
    (introduced : List NonTerminal) : Grammar where
  productions := productions
  start := start
  introduced := distinct introduced
  nonTerminals := tableOf start productions
  nodup_introduced := nodup_distinct introduced
  nonTerminals_eq := rfl

def ofProductions (productions : List Production) (start : NonTerminal) : Grammar :=
  normalized productions start []

def startId : NonTerminalId :=
  ⟨0⟩

variable (g : Grammar)

def nonTerminalIds : List NonTerminalId :=
  (List.range g.nonTerminals.length).map .mk

def productionIds : List ProductionId :=
  (List.range g.productions.length).map .mk

def nonTerminal? (n : NonTerminalId) : Option NonTerminal :=
  g.nonTerminals[n.toNat]?

def production? (i : ProductionId) : Option Production :=
  g.productions[i.toNat]?

def id? (a : NonTerminal) : Option NonTerminalId :=
  (g.nonTerminals.idxOf? a).map .mk

def headId? (i : ProductionId) : Option NonTerminalId :=
  (g.production? i).bind fun p => g.id? p.head

/-- The productions whose head has the number `n`, in order. -/
def alternativeIds? (n : NonTerminalId) : Option (List ProductionId) :=
  (g.nonTerminal? n).map fun a =>
    g.productions.zipIdx.filterMap fun (p, i) => if p.head = a then some ⟨i⟩ else none

def alternatives (a : NonTerminal) : List Production :=
  (((g.id? a).bind g.alternativeIds?).getD []).filterMap g.production?

def isDefined (a : NonTerminal) : Bool :=
  !(g.alternatives a).isEmpty

def isUsed (a : NonTerminal) : Bool :=
  g.productions.any fun p => p.nonTerminals.contains a

/-- Whether a production has `a` as its head or in its body: all numbered non-terminals do, but
perhaps not the start. -/
def mentions (a : NonTerminal) : Bool :=
  match g.id? a with
  | none => false
  | some n => n ≠ startId || g.isDefined a || g.isUsed a

def terminals : List Terminal :=
  distinct (g.productions.flatMap Production.terminals)

def isIntroduced (a : NonTerminal) : Bool :=
  g.introduced.contains a

end Grammar

end ContextFree
