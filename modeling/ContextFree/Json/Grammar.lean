import ContextFree.Grammar.Basic
import ContextFree.Json.Codec

/-! Grammars and their parts as JSON. -/
namespace ContextFree.Json

instance : Codec Terminal where
  write t := write t.value
  read v := (read v).map Terminal.mk

instance : Codec NonTerminal where
  write a := write a.name
  read v := (read v).map NonTerminal.mk

instance : Codec NonTerminalId where
  write n := write n.toNat
  read v := (read v).map NonTerminalId.mk

instance : Codec ProductionId where
  write i := write i.toNat
  read v := (read v).map ProductionId.mk

def content {α : Type} [Codec α] : Option Value → Except Error α
  | some v => read v
  | none => .error .bareVariant

instance : Codec Symbol where
  write
    | .terminal t => .object [("Terminal", write t)]
    | .nonTerminal a => .object [("NonTerminal", write a)]
  read v := do
    let (name, given) ← variant v
    if name = "Terminal" then return .terminal (← content given)
    else if name = "NonTerminal" then return .nonTerminal (← content given)
    else throw (.unknownVariant name ["Terminal", "NonTerminal"])

/-- The fields of an object are read in alphabetical order, and only then is one missed. -/
instance : Codec Production where
  write p := .object [("body", write p.body), ("pattern", write p.head)]
  read
    | .array items => do
      let head ← element "Production" 2 items 0 read
      let body ← element "Production" 2 items 1 read
      noMore 2 items
      return ⟨head, body⟩
    | .object fields => do
      let body ← field fields "body" read
      let head ← field fields "pattern" read
      return ⟨← require "pattern" head, ← require "body" body⟩
    | v => mismatch v (.record "Production")

/-- Repeats among the introduced non-terminals are dropped. -/
instance : Codec Grammar where
  write g := .object [("normalization_non_terminals", write g.introduced),
    ("productions", write g.productions), ("start", write g.start)]
  read
    | .array items => do
      let productions ← element "SerializedGrammar" 3 items 0 read
      let start ← element "SerializedGrammar" 3 items 1 read
      let introduced ← element "SerializedGrammar" 3 items 2 (readAll .set)
      noMore 3 items
      return .normalized productions start introduced
    | .object fields => do
      let introduced ← field fields "normalization_non_terminals" (readAll .set)
      let productions ← field fields "productions" read
      let start ← field fields "start" read
      return .normalized (← require "productions" productions) (← require "start" start)
        (← require "normalization_non_terminals" introduced)
    | v => mismatch v (.record "SerializedGrammar")

end ContextFree.Json
