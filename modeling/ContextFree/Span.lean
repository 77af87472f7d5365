import ContextFree.Text.Offset

/-! Half-open ranges of bytes, and why a request about a source text has no answer. -/
namespace ContextFree

/-- The bytes from `start` up to but not including `stop`. -/
structure Span where
  start : Nat
  stop : Nat
  start_le_stop : start ≤ stop
deriving DecidableEq

namespace Span

def length (s : Span) : Nat :=
  s.stop - s.start

def isEmpty (s : Span) : Bool :=
  s.length = 0

/-- The last byte that the span covers; an empty span has the byte where it is. -/
def last (s : Span) : Nat :=
  if s.isEmpty then s.start else s.stop - 1

def render (s : Span) : String :=
  toString s.start ++ ".." ++ toString s.stop

def fits (s : Span) (source : String) : Bool :=
  Text.isBoundary source.toList s.start && Text.isBoundary source.toList s.stop

end Span

inductive Fault where
  /-- The bounds of a span are in the wrong order. -/
  | reversed (start stop : Nat)
  /-- A span ends past the end of a source of `size` bytes, or cuts a character of it. -/
  | misfit (span : Span) (size : Nat)
  /-- A span ends past the end of the source. -/
  | outside (span : Span)
  /-- An error is about another source. -/
  | foreign
  /-- A slice would cut a character. -/
  | broken (start stop : Nat)
deriving DecidableEq

/-- A slice that cuts a character has no wording of its own. -/
def Fault.message? : Fault → Option String
  | .reversed start stop =>
    some ("Span end (" ++ toString stop ++ ") precedes its start (" ++ toString start ++ ")")
  | .misfit span size =>
    some ("Span " ++ span.render ++ " does not fit a source of " ++ toString size ++
      " bytes on character boundaries")
  | .outside span => some ("Span " ++ span.render ++ " is outside the source")
  | .foreign => some "Error refers to a different source"
  | .broken _ _ => none

def Span.ofBounds (start stop : Nat) : Except Fault Span :=
  if h : start ≤ stop then .ok ⟨start, stop, h⟩ else .error (.reversed start stop)

def Text.slice (source : String) (start stop : Nat) : Except Fault String :=
  match Text.slice? source.toList start stop with
  | some cs => .ok (.ofList cs)
  | none => .error (.broken start stop)

theorem Span.start_le_last (s : Span) : s.start ≤ s.last := by
  have := s.start_le_stop
  rw [last, isEmpty, length]
  split
  · exact Nat.le_refl _
  · next h =>
    rw [decide_eq_true_eq] at h
    omega

theorem Span.last_le_stop (s : Span) : s.last ≤ s.stop := by
  rw [last]
  split
  · exact s.start_le_stop
  · exact Nat.sub_le ..

theorem Span.le_last {s : Span} {byte : Nat} (h : byte < s.stop) : byte ≤ s.last := by
  rw [last, isEmpty, length]
  split
  · next he =>
    rw [decide_eq_true_eq] at he
    omega
  · omega

theorem Span.fits_iff {span : Span} {source : String} :
    span.fits source = true ↔ Text.isBoundary source.toList span.start = true ∧
      Text.isBoundary source.toList span.stop = true := by
  rw [fits, Bool.and_eq_true]

theorem Span.fits_iff_isValid {span : Span} {source : String} :
    span.fits source = true ↔ span.stop ≤ source.utf8ByteSize ∧
      String.Pos.Raw.IsValid source ⟨span.start⟩ ∧ String.Pos.Raw.IsValid source ⟨span.stop⟩ := by
  rw [fits_iff, Text.isBoundary_toList_iff, Text.isBoundary_toList_iff]
  constructor
  · intro h
    exact ⟨h.2.le_utf8ByteSize, h⟩
  · intro h
    exact h.2

theorem Text.slice_append {source : String} {before piece after : List Char}
    (h : before ++ (piece ++ after) = source.toList) :
    slice source (size before) (size before + size piece) = .ok (.ofList piece) := by
  rw [slice, slice?_eq_some_iff.2 ⟨before, after, h, rfl, rfl⟩]

theorem Text.exists_slice {source : String} {start stop : Nat} (hle : start ≤ stop)
    (hstart : isBoundary source.toList start = true) (hstop : isBoundary source.toList stop = true) :
    ∃ s, slice source start stop = .ok s := by
  obtain ⟨cs, hcs⟩ := Option.isSome_iff_exists.1 (isSome_slice?_iff.2 ⟨hle, hstart, hstop⟩)
  exact ⟨.ofList cs, by rw [slice, hcs]⟩

end ContextFree
