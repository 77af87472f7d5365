import ContextFree.Span

/-! Where the lines of a source text start, and the lines and columns of its bytes. -/
namespace ContextFree

/-- Lines are numbered from 1. A line feed ends its line, and one at the end of the source leaves an
empty last line. -/
structure LineIndex where
  starts : List Nat
  size : Nat
deriving DecidableEq

namespace LineIndex

/-- The places just after the line feeds of a text that begins at byte `n`. -/
def startsAfter (n : Nat) : List Char → List Nat
  | [] => []
  | c :: cs =>
    let rest := startsAfter (n + c.utf8Size) cs
    if c = '\n' then (n + c.utf8Size) :: rest else rest

def ofSource (source : String) : LineIndex :=
  ⟨0 :: startsAfter 0 source.toList, Text.size source.toList⟩

def lineCount (ix : LineIndex) : Nat :=
  ix.starts.length

/-- The line of a byte, counting the lines that start at or before it. -/
def line? (ix : LineIndex) (byte : Nat) : Option Nat :=
  if ix.size < byte then none else some (ix.starts.countP (· ≤ byte))

/-- The bytes of a line, without the line feed that ends it. -/
def bounds? (ix : LineIndex) : Nat → Option (Nat × Nat)
  | 0 => none
  | n + 1 => (ix.starts[n]?).map fun start =>
    (start, match ix.starts[n + 1]? with
      | some next => next - 1
      | none => ix.size)

/-- The columns that a piece of a line takes before the text `after`: one for each character, but
none for a carriage return directly before a line feed. -/
def columns (after : List Char) : List Char → Nat
  | [] => 0
  | c :: cs =>
    (if c = '\r' && cs.head?.or after.head? = some '\n' then 0 else 1) + columns after cs

/-- The line and column of a byte of `source`. There is none if the index belongs to a source of
another size, or if the byte is not a boundary. Where the index belongs to another source of that
size, the start of the line may cut a character. -/
def position? (ix : LineIndex) (source : String) (byte : Nat) :
    Except Fault (Option (Nat × Nat)) := do
  let cs := source.toList
  if Text.size cs ≠ ix.size then return none
  match Text.cut? cs byte, ix.line? byte with
  | some (_, after), some line =>
    let start := ix.starts[line - 1]?.getD 0
    match Text.slice? cs start byte with
    | some piece => return some (line, 1 + columns after piece)
    | none => throw (.broken start byte)
  | _, _ => return none

/-- The bytes from the start of the line of the first byte of `span` to the end of the line of its
last byte. An empty span has the line it is on. -/
def cover (ix : LineIndex) (span : Span) : Except Fault (Nat × Nat) :=
  let last := if span.isEmpty then span.start else span.stop - 1
  let lookup (byte : Nat) := (ix.line? byte).bind ix.bounds?
  if ix.size < span.stop then .error (.outside span)
  else match lookup span.start, lookup last with
    | some (start, _), some (_, stop) => .ok (start, stop)
    | _, _ => .error (.outside span)

end LineIndex

end ContextFree
