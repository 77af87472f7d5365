/-! Grammar symbols: terminals, which stand for themselves, and non-terminals. A terminal is written as a
quoted literal: a delimiter, the text with escapes, and the delimiter again. -/
namespace ContextFree

namespace Text.Quoted

/-- A double quote, unless the text has one in it; then a single quote. -/
def delimiter (cs : List Char) : Char :=
  if cs.contains '"' then '\'' else '"'

/-- Backslashes, line breaks, tabs and the delimiter `d` are written with a backslash. -/
def escape (d : Char) : Char → List Char
  | '\\' => ['\\', '\\']
  | '\n' => ['\\', 'n']
  | '\r' => ['\\', 'r']
  | '\t' => ['\\', 't']
  | c => if c = d then ['\\', c] else [c]

def encode (cs : List Char) : List Char :=
  let d := delimiter cs
  d :: (cs.flatMap (escape d) ++ [d])

def unescape : Char → Char
  | 'n' => '\n'
  | 'r' => '\r'
  | 't' => '\t'
  | c => c

/-- Reads up to the first `d` that no backslash protects, and returns the rest with what was read. -/
def decodeUpTo (d : Char) : List Char → Option (List Char × List Char)
  | [] => none
  | '\\' :: c :: rest => (decodeUpTo d rest).map fun (cs, r) => (unescape c :: cs, r)
  | c :: rest =>
    if c = d then some ([], rest) else (decodeUpTo d rest).map fun (cs, r) => (c :: cs, r)

def decode : List Char → Option (List Char × List Char)
  | [] => none
  | d :: rest => decodeUpTo d rest

end Text.Quoted

def quote (s : String) : String :=
  .ofList (Text.Quoted.encode s.toList)

/-- A literal of the language being defined. -/
structure Terminal where
  value : String
deriving DecidableEq

/-- A named placeholder, expanded by productions. -/
structure NonTerminal where
  name : String
deriving DecidableEq

inductive Symbol where
  | terminal (t : Terminal)
  | nonTerminal (a : NonTerminal)
deriving DecidableEq

def Terminal.render (t : Terminal) : String :=
  quote t.value

def NonTerminal.render (a : NonTerminal) : String :=
  "<" ++ a.name ++ ">"

namespace Symbol

def render : Symbol → String
  | .terminal t => t.render
  | .nonTerminal a => a.render

def terminal? : Symbol → Option Terminal
  | .terminal t => some t
  | .nonTerminal _ => none

def nonTerminal? : Symbol → Option NonTerminal
  | .terminal _ => none
  | .nonTerminal a => some a

def isTerminal (s : Symbol) : Bool :=
  s.terminal?.isSome

def isNonTerminal (s : Symbol) : Bool :=
  s.nonTerminal?.isSome

end Symbol

instance : Ord Terminal := ⟨fun s t => compare s.value t.value⟩

instance : Ord NonTerminal := ⟨fun a b => compare a.name b.name⟩

/-- Every terminal is below every non-terminal. -/
instance : Ord Symbol where
  compare
    | .terminal s, .terminal t => compare s t
    | .terminal _, .nonTerminal _ => .lt
    | .nonTerminal _, .terminal _ => .gt
    | .nonTerminal a, .nonTerminal b => compare a b

instance : Std.TransOrd Terminal :=
  inferInstanceAs (Std.TransCmp (compareOn Terminal.value))

instance : Std.LawfulEqOrd Terminal where
  eq_of_compare {s t} h := by
    cases s; cases t
    exact congrArg _ (Std.LawfulEqOrd.eq_of_compare h)

instance : Std.TransOrd NonTerminal :=
  inferInstanceAs (Std.TransCmp (compareOn NonTerminal.name))

instance : Std.LawfulEqOrd NonTerminal where
  eq_of_compare {a b} h := by
    cases a; cases b
    exact congrArg _ (Std.LawfulEqOrd.eq_of_compare h)

instance : Std.TransOrd Symbol where
  eq_swap {x y} :=
    match x, y with
    | .terminal s, .terminal t => Std.OrientedOrd.eq_swap (a := s) (b := t)
    | .terminal _, .nonTerminal _ => rfl
    | .nonTerminal _, .terminal _ => rfl
    | .nonTerminal a, .nonTerminal b => Std.OrientedOrd.eq_swap (a := a) (b := b)
  isLE_trans {x y z} h k :=
    match x, y, z, h, k with
    | .terminal r, .terminal s, .terminal t, h, k =>
      Std.TransOrd.isLE_trans (a := r) (b := s) (c := t) h k
    | .terminal _, _, .nonTerminal _, _, _ => rfl
    | .nonTerminal a, .nonTerminal b, .nonTerminal c, h, k =>
      Std.TransOrd.isLE_trans (a := a) (b := b) (c := c) h k

instance : Std.LawfulEqOrd Symbol where
  eq_of_compare {x y} h := by
    cases x <;> cases y
    · exact congrArg _ (Std.LawfulEqOrd.eq_of_compare h)
    · exact Ordering.noConfusion h
    · exact Ordering.noConfusion h
    · exact congrArg _ (Std.LawfulEqOrd.eq_of_compare h)

end ContextFree
