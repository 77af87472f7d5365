import ContextFree.Source.LineIndex
import ContextFree.Symbol

/-! Why a source text was not recognised, and where. -/
namespace ContextFree

inductive SyntaxErrorKind where
  /-- The source is empty, and the grammar does not accept the empty string. -/
  | emptyNotAllowed
  /-- No terminal matches here. -/
  | unknownToken
  /-- A candidate match is part of no derivation. -/
  | unmatchedPattern
  /-- No expected non-terminal accepts the token here. -/
  | unexpectedToken
deriving DecidableEq

def SyntaxErrorKind.reason : SyntaxErrorKind → String
  | .emptyNotAllowed => "Empty input not allowed"
  | .unknownToken => "Unknown token"
  | .unmatchedPattern => "Unmatched pattern"
  | .unexpectedToken => "Unexpected token"

/-- The span says which part of the source is at fault; `expected` has the non-terminals that could
have been accepted there. -/
structure SyntaxError where
  span : Span
  kind : SyntaxErrorKind
  expected : List NonTerminal
  source : String
  fits : span.fits source = true
deriving DecidableEq

namespace SyntaxError

def ofParts (span : Span) (kind : SyntaxErrorKind) (expected : List NonTerminal)
    (source : String) : Except Fault SyntaxError :=
  if h : span.fits source = true then .ok ⟨span, kind, expected, source, h⟩
  else .error (.misfit span (Text.size source.toList))

def covered (e : SyntaxError) : Except Fault String :=
  Text.slice e.source e.span.start e.span.stop

def expectation (e : SyntaxError) : String :=
  if e.expected.isEmpty then "" else ", expected: " ++ " | ".intercalate (e.expected.map (·.render))

def render (e : SyntaxError) : Except Fault String := do
  return "Error: " ++ e.kind.reason ++ " at " ++ e.span.render ++ ": '" ++ (← e.covered) ++ "'" ++
    e.expectation

def positions (e : SyntaxError) : Except Fault ((Nat × Nat) × (Nat × Nat)) := do
  let ix := LineIndex.ofSource e.source
  let start ← ix.position? e.source e.span.start
  let stop ← ix.position? e.source e.span.stop
  match start, stop with
  | some start, some stop => return (start, stop)
  | _, _ => throw (.outside e.span)

end SyntaxError

end ContextFree
