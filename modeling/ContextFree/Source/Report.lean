import ContextFree.SyntaxError
import ContextFree.Text.Width

/-! Reports about a source text: where a message belongs, and an excerpt of the lines that a span touches,
with marks under what it covers. -/
namespace ContextFree

namespace Excerpt

structure Row where
  /-- The number of the line. -/
  number : Nat
  /-- The line without the carriage return that may end it. -/
  text : String
  /-- The bytes of the source that are marked. -/
  markStart : Nat
  markStop : Nat
  /-- The part of the line before the marks, and the part above them. -/
  lead : String
  marked : String
deriving DecidableEq

def trimReturn (line : List Char) : List Char :=
  if line.getLast? = some '\r' then line.dropLast else line

/-- The rows of consecutive lines, the first of which starts at byte `start` and has the number
`number`. -/
def rowsFrom (source : String) (span : Span) :
    Nat → Nat → List (List Char) → Except Fault (List Row)
  | _, _, [] => .ok []
  | start, number, line :: lines => do
    let text := trimReturn line
    let markStart := max span.start start
    let markStop := max (min span.stop (start + Text.size text)) markStart
    let lead ← Text.slice source start markStart
    let marked ← Text.slice source markStart markStop
    let rows ← rowsFrom source span (start + Text.size line + 1) (number + 1) lines
    return ⟨number, .ofList text, markStart, markStop, lead, marked⟩ :: rows

def rows (source : String) (span : Span) : Except Fault (List Row) := do
  let ix := LineIndex.ofSource source
  if !span.fits source then throw (.misfit span ix.size)
  let (start, stop) ← ix.cover span
  let piece ← Text.slice source start stop
  match ix.line? start with
  | some number => rowsFrom source span start number (piece.toList.splitOn '\n')
  | none => throw (.outside span)

/-- The line after its number, and below it the marks: at least one, under what the row marks. -/
def renderRow (width : String → Nat) (mark : Char) (row : Row) : String :=
  let number := toString row.number
  let indent := width row.lead + number.length + 2
  number ++ "| " ++ row.text ++ "\n" ++
    .ofList (.replicate indent ' ' ++ .replicate (max (width row.marked) 1) mark)

def render (width : String → Nat) (mark : Char) (message : String) (rows : List Row) :
    String :=
  "\n".intercalate (rows.map (renderRow width mark)) ++ " " ++ message

end Excerpt

structure SourceFile where
  text : String
  path : Option String
deriving DecidableEq

namespace SourceFile

def index (f : SourceFile) : LineIndex :=
  .ofSource f.text

/-- A message with the line and column of the start of a span, or with the path alone. A place that
the source does not have is shown as `0:0`. -/
def located (f : SourceFile) (message : String) : Option Span → Except Fault String
  | some span => do
    let (line, column) := (← f.index.position? f.text span.start).getD (0, 0)
    let origin := match f.path with
      | some path => path ++ ":"
      | none => ""
    return message ++ " at " ++ origin ++ toString line ++ ":" ++ toString column
  | none => return match f.path with
    | some path => message ++ " in " ++ path
    | none => message

def excerpt (f : SourceFile) (span : Span) (message : String) (mark : Char) :
    Except Fault String := do
  return Excerpt.render Text.width mark message (← Excerpt.rows f.text span)

def report (f : SourceFile) (e : SyntaxError) : Except Fault String := do
  if e.source ≠ f.text then throw .foreign
  let header ← f.located e.kind.reason (some e.span)
  return header ++ e.expectation ++ "\n" ++ (← f.excerpt e.span e.kind.reason '^')

end SourceFile

end ContextFree
