import ContextFree.Json.Grammar
import ContextFree.SyntaxError

/-! Spans and syntax errors as JSON. -/
namespace ContextFree.Json

/-- The bounds of a span in the wrong order are refused after both are read. -/
def spanOfBounds (start stop : Nat) : Except Error Span :=
  if h : start ≤ stop then .ok ⟨start, stop, h⟩ else .error (.reversed start stop)

instance : Codec Span where
  write s := .object [("end", write s.stop), ("start", write s.start)]
  read
    | .array items => do
      let start ← element "SerializedSpan" 2 items 0 read
      let stop ← element "SerializedSpan" 2 items 1 read
      noMore 2 items
      spanOfBounds start stop
    | .object fields => do
      let stop ← field fields "end" read
      let start ← field fields "start" read
      spanOfBounds (← require "start" start) (← require "end" stop)
    | v => mismatch v (.record "SerializedSpan")

def kindName : SyntaxErrorKind → String
  | .emptyNotAllowed => "EmptyNotAllowed"
  | .unknownToken => "UnknownToken"
  | .unmatchedPattern => "UnmatchedPattern"
  | .unexpectedToken => "UnexpectedToken"

def kinds : List SyntaxErrorKind :=
  [.emptyNotAllowed, .unknownToken, .unmatchedPattern, .unexpectedToken]

/-- A kind has no content, but `null` may stand for it. -/
instance : Codec SyntaxErrorKind where
  write k := .string (kindName k)
  read v := do
    let (name, given) ← variant v
    match kinds.find? fun k => kindName k = name with
    | none => throw (.unknownVariant name (kinds.map kindName))
    | some k => match given with
      | none => return k
      | some .null => return k
      | some w => mismatch w .unit

/-- A span that does not fit the source is refused after all fields are read. -/
def syntaxErrorOfParts (span : Span) (kind : SyntaxErrorKind) (expected : List NonTerminal)
    (source : String) : Except Error SyntaxError :=
  if h : span.fits source = true then .ok ⟨span, kind, expected, source, h⟩
  else .error (.misfit span (Text.size source.toList))

instance : Codec SyntaxError where
  write e := .object [("context", write e.expected), ("kind", write e.kind),
    ("span", write e.span), ("src", write e.source)]
  read
    | .array items => do
      let span ← element "SerializedSyntaxError" 4 items 0 read
      let kind ← element "SerializedSyntaxError" 4 items 1 read
      let expected ← element "SerializedSyntaxError" 4 items 2 read
      let source ← element "SerializedSyntaxError" 4 items 3 read
      noMore 4 items
      syntaxErrorOfParts span kind expected source
    | .object fields => do
      let expected ← field fields "context" read
      let kind ← field fields "kind" read
      let span ← field fields "span" read
      let source ← field fields "src" read
      syntaxErrorOfParts (← require "span" span) (← require "kind" kind)
        (← require "context" expected) (← require "src" source)
    | v => mismatch v (.record "SerializedSyntaxError")

end ContextFree.Json
