import ContextFree.Proofs.RoundTrip

/-! Spans and syntax errors are read from JSON under the same condition as they are made from their
parts, and with the same result. -/
namespace ContextFree

variable {start stop : Nat} {span : Span} {kind : SyntaxErrorKind} {expected : List NonTerminal}
  {source : String}

theorem Span.ofBounds_eq_ok_iff :
    ofBounds start stop = .ok span ↔ span.start = start ∧ span.stop = stop := by
  rw [ofBounds]
  split
  · next h =>
    cases span
    rw [Except.ok.injEq, mk.injEq, eq_comm (a := start), eq_comm (a := stop)]
  · next h =>
    simp only [reduceCtorEq, false_iff]
    rintro ⟨rfl, rfl⟩
    exact h span.start_le_stop

theorem SyntaxError.ofParts_eq_ok_iff {e : SyntaxError} :
    ofParts span kind expected source = .ok e ↔
      e.span = span ∧ e.kind = kind ∧ e.expected = expected ∧ e.source = source := by
  rw [ofParts]
  split
  · next h =>
    cases e
    simp only [Except.ok.injEq, mk.injEq, eq_comm]
  · next h =>
    simp only [reduceCtorEq, false_iff]
    rintro ⟨rfl, rfl, rfl, rfl⟩
    exact h e.fits

/-- A sequence of two steps gives what the second makes of the first. -/
theorem bind_eq_ok_iff {ε α β : Type} {x : Except ε α} {f : α → Except ε β} {b : β} :
    (x >>= f) = .ok b ↔ ∃ a, x = .ok a ∧ f a = .ok b := by
  cases x with
  | error e => simp [bind, Except.bind]
  | ok a => simp [bind, Except.bind]

theorem SyntaxError.ofBounds_eq_ok_iff {e : SyntaxError} :
    (Span.ofBounds start stop >>= fun span => ofParts span kind expected source) = .ok e ↔
      (e.span.start = start ∧ e.span.stop = stop) ∧ e.kind = kind ∧ e.expected = expected ∧
        e.source = source := by
  simp only [bind_eq_ok_iff, Span.ofBounds_eq_ok_iff, ofParts_eq_ok_iff]
  constructor
  · rintro ⟨span, hspan, rfl, h⟩
    exact ⟨hspan, h⟩
  · rintro ⟨hspan, h⟩
    exact ⟨e.span, hspan, rfl, h⟩

theorem exists_span_iff : (∃ span, Span.ofBounds start stop = .ok span) ↔ start ≤ stop := by
  simp only [Span.ofBounds_eq_ok_iff]
  constructor
  · rintro ⟨span, rfl, rfl⟩
    exact span.start_le_stop
  · intro h
    exact ⟨⟨start, stop, h⟩, rfl, rfl⟩

theorem exists_syntaxError_iff :
    (∃ e, (Span.ofBounds start stop >>= fun span => SyntaxError.ofParts span kind expected source) =
      .ok e) ↔ start ≤ stop ∧ stop ≤ source.utf8ByteSize ∧
        String.Pos.Raw.IsValid source ⟨start⟩ ∧ String.Pos.Raw.IsValid source ⟨stop⟩ := by
  simp only [SyntaxError.ofBounds_eq_ok_iff]
  constructor
  · rintro ⟨e, ⟨rfl, rfl⟩, rfl, rfl, rfl⟩
    exact ⟨e.span.start_le_stop, Span.fits_iff_isValid.1 e.fits⟩
  · rintro ⟨hle, hvalid⟩
    exact ⟨⟨⟨start, stop, hle⟩, kind, expected, source, Span.fits_iff_isValid.2 hvalid⟩,
      ⟨rfl, rfl⟩, rfl, rfl, rfl⟩

namespace Json

/-- A record is spelled as the array of its fields in declared order, or as an object that has them
all, in any order and among others. -/
inductive Spells (fields : List (String × Value)) : Value → Prop where
  | array : Spells fields (.array (fields.map Prod.snd))
  | object {given : List (String × Value)} (has : ∀ f ∈ fields, given.lookup f.1 = some f.2) :
    Spells fields (.object given)

def spanFields (start stop : Nat) : List (String × Value) :=
  [("start", write start), ("end", write stop)]

def syntaxErrorFields (span : Value) (kind : SyntaxErrorKind) (expected : List NonTerminal)
    (source : String) : List (String × Value) :=
  [("span", span), ("kind", write kind), ("context", write expected), ("src", write source)]

variable {v w : Value}

theorem read_span_of_spells (h : Spells (spanFields start stop) v) :
    read v = spanOfBounds start stop := by
  -- An array is read in declared order, an object in the order of its names: the end comes first.
  cases h with
  | array =>
    change ((read (write start) : Except Error Nat) >>= fun start =>
      (read (write stop) : Except Error Nat) >>= fun stop => spanOfBounds start stop) = _
    rw [read_write, read_write]
    rfl
  | object has =>
    exact read_span_object (field_of_lookup (has ("end", _) (by simp [spanFields])) (read_write stop))
      (field_of_lookup (has ("start", _) (by simp [spanFields])) (read_write start))

theorem read_syntaxError_of_spells (h : Spells (syntaxErrorFields w kind expected source) v) :
    read v = (read w : Except Error Span) >>= fun span =>
      syntaxErrorOfParts span kind expected source := by
  cases h with
  | array =>
    change ((read w : Except Error Span) >>= fun span =>
      (read (write kind) : Except Error SyntaxErrorKind) >>= fun kind =>
      (read (write expected) : Except Error (List NonTerminal)) >>= fun expected =>
      (read (write source) : Except Error String) >>= fun source =>
      syntaxErrorOfParts span kind expected source) = _
    rw [read_write, read_write, read_write]
    rfl
  | object has =>
    have has := fun name u h => has (name, u) h
    simp only [syntaxErrorFields, List.mem_cons] at has
    exact read_syntaxError_object
      (field_of_lookup (has "context" _ (by simp)) (read_write expected))
      (field_of_lookup (has "kind" _ (by simp)) (read_write kind))
      (field_eq_of_lookup (has "span" _ (by simp)))
      (field_of_lookup (has "src" _ (by simp)) (read_write source))

theorem spanOfBounds_eq_ok_iff {s : Span} :
    spanOfBounds start stop = .ok s ↔ Span.ofBounds start stop = .ok s := by
  rw [spanOfBounds, Span.ofBounds]
  split <;> simp

theorem syntaxErrorOfParts_eq_ok_iff {e : SyntaxError} :
    syntaxErrorOfParts span kind expected source = .ok e ↔
      SyntaxError.ofParts span kind expected source = .ok e := by
  rw [syntaxErrorOfParts, SyntaxError.ofParts]
  split <;> simp

/-- A span is read just if it can be made, and so is an error; what is read is what is made. In both
ways every span has its bounds in order, and the span of every error lies within the source and cuts
no character. -/
theorem read_iff_made (start stop : Nat) :
    (∀ v, Spells (spanFields start stop) v →
      (∀ s : Span, read v = .ok s ↔ Span.ofBounds start stop = .ok s) ∧
      ((∃ s : Span, read v = .ok s) ↔ start ≤ stop)) ∧
    (∀ kind expected source w v, Spells (spanFields start stop) w →
      Spells (syntaxErrorFields w kind expected source) v →
      (∀ e : SyntaxError, read v = .ok e ↔
        (Span.ofBounds start stop >>= fun span => SyntaxError.ofParts span kind expected source) =
          .ok e) ∧
      ((∃ e : SyntaxError, read v = .ok e) ↔ start ≤ stop ∧ stop ≤ source.utf8ByteSize ∧
        String.Pos.Raw.IsValid source ⟨start⟩ ∧ String.Pos.Raw.IsValid source ⟨stop⟩)) ∧
    (∀ s : Span, s.start ≤ s.stop) ∧
    ∀ e : SyntaxError, e.span.start ≤ e.span.stop ∧ e.span.stop ≤ e.source.utf8ByteSize ∧
      String.Pos.Raw.IsValid e.source ⟨e.span.start⟩ ∧
      String.Pos.Raw.IsValid e.source ⟨e.span.stop⟩ := by
  have hspan : ∀ v, Spells (spanFields start stop) v → ∀ s : Span,
      read v = .ok s ↔ Span.ofBounds start stop = .ok s := by
    intro v hv s
    rw [read_span_of_spells hv, spanOfBounds_eq_ok_iff]
  refine ⟨fun v hv => ⟨hspan v hv, ?_⟩, fun kind expected source w v hw hv => ?_,
    Span.start_le_stop, fun e => ⟨e.span.start_le_stop, Span.fits_iff_isValid.1 e.fits⟩⟩
  · simp only [hspan v hv, exists_span_iff]
  · have herror : ∀ e : SyntaxError, read v = .ok e ↔
        (Span.ofBounds start stop >>= fun span => SyntaxError.ofParts span kind expected source) =
          .ok e := by
      intro e
      simp only [read_syntaxError_of_spells hv, bind_eq_ok_iff, hspan w hw,
        syntaxErrorOfParts_eq_ok_iff]
    refine ⟨herror, ?_⟩
    simp only [herror, exists_syntaxError_iff]

/-- The spade takes the bytes from 1 to 4, so byte 2 is inside it. The error is written as an array and
its span as an object. -/
theorem read_iff_made_beside_spade :
    let v (start stop : Nat) : Value := .array [.object [("end", write stop), ("start", write start)],
      write SyntaxErrorKind.unknownToken, write [NonTerminal.mk "S"], write "a♠b"]
    (∃ e : SyntaxError, read (v 1 4) = .ok e) ∧ ¬ ∃ e : SyntaxError, read (v 2 4) = .ok e := by
  intro v
  have hw : ∀ start stop,
      Spells (spanFields start stop) (.object [("end", write stop), ("start", write start)]) := by
    intro start stop
    exact .object (by simp [spanFields, List.lookup_cons])
  have hv := fun start stop => (read_iff_made start stop).2.1 .unknownToken [⟨"S"⟩] "a♠b" _ _
    (hw start stop) .array
  refine ⟨(hv 1 4).2.2 ⟨by decide, by decide, ?_, ?_⟩, fun h => ?_⟩
  · exact Text.isBoundary_toList_iff.1 (by decide)
  · exact Text.isBoundary_toList_iff.1 (by decide)
  · have hvalid : String.Pos.Raw.IsValid "a♠b" ⟨2⟩ := ((hv 2 4).2.1 h).2.2.1
    exact absurd (Text.isBoundary_toList_iff.2 hvalid) (by decide)

end Json

end ContextFree
