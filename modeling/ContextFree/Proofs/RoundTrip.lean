import ContextFree.Grammar.Lemmas
import ContextFree.Json.SyntaxError
import ContextFree.Warning.Report

/-! Each value can be read from what is written for it, and what is written is a normal form:
reading and writing it again changes nothing. -/
namespace ContextFree.Json

class LawfulCodec (α : Type) [Codec α] : Prop where
  read_write : ∀ x : α, read (write x) = .ok x

export LawfulCodec (read_write)

instance : LawfulCodec String where
  read_write _ := rfl

instance : LawfulCodec Nat where
  read_write n := by
    have hn : ¬ (n : Int) < 0 := by omega
    change (if (n : Int) < 0 then _ else Except.ok (Int.toNat n)) = .ok n
    rw [if_neg hn, Int.toNat_natCast]

theorem readAll_writeAll {α : Type} [Codec α] [LawfulCodec α] (expected : Expected) (xs : List α) :
    readAll expected (writeAll xs) = .ok xs := by
  induction xs with
  | nil => rfl
  | cons x xs ih =>
    have ih : (xs.map write).mapM (read (α := α)) = .ok xs := ih
    rw [writeAll, readAll, List.map_cons, List.mapM_cons, read_write, ih]
    rfl

instance {α : Type} [Codec α] [LawfulCodec α] : LawfulCodec (List α) where
  read_write := readAll_writeAll .sequence

theorem field_eq_of_lookup {α : Type} {fields : List (String × Value)} {name : String} {v : Value}
    {readField : Value → Except Error α} (h : fields.lookup name = some v) :
    field fields name readField = (readField v).map some := by
  simp only [field, Value.field?, h]

theorem field_of_lookup {α : Type} {fields : List (String × Value)} {name : String} {v : Value}
    {x : α} {readField : Value → Except Error α} (h : fields.lookup name = some v)
    (hv : readField v = .ok x) : field fields name readField = .ok (some x) := by
  rw [field_eq_of_lookup h, hv]
  rfl

/-- The value that is written for what `v` is read as. -/
def normalForm (α : Type) [Codec α] (v : Value) : Except Error Value :=
  (read v : Except Error α).map write

theorem normalForm_write {α : Type} [Codec α] [LawfulCodec α] (x : α) :
    normalForm α (write x) = .ok (write x) := by
  rw [normalForm, read_write]
  rfl

instance : LawfulCodec Terminal where
  read_write t := by
    change (read (write t.value)).map Terminal.mk = .ok t
    rw [read_write]
    rfl

instance : LawfulCodec NonTerminal where
  read_write a := by
    change (read (write a.name)).map NonTerminal.mk = .ok a
    rw [read_write]
    rfl

instance : LawfulCodec NonTerminalId where
  read_write n := by
    change (read (write n.toNat)).map NonTerminalId.mk = .ok n
    rw [read_write]
    rfl

instance : LawfulCodec ProductionId where
  read_write i := by
    change (read (write i.toNat)).map ProductionId.mk = .ok i
    rw [read_write]
    rfl

instance : LawfulCodec Symbol where
  read_write
    | .terminal t => by
      change (Symbol.terminal <$> read (write t) : Except Error Symbol) = .ok (.terminal t)
      rw [read_write]
      rfl
    | .nonTerminal a => by
      change (Symbol.nonTerminal <$> read (write a) : Except Error Symbol) = .ok (.nonTerminal a)
      rw [read_write]
      rfl

section

variable {fields : List (String × Value)}

theorem read_production_object {head : NonTerminal} {body : List Symbol}
    (hbody : field fields "body" read = .ok (some body))
    (hhead : field fields "pattern" read = .ok (some head)) :
    read (.object fields) = .ok (Production.mk head body) := by
  change (field fields "body" read >>= _) = _
  rw [hbody]
  change (field fields "pattern" read >>= _) = _
  rw [hhead]
  rfl

theorem read_grammar_object {productions : List Production} {start : NonTerminal}
    {introduced : List NonTerminal}
    (hintroduced :
      field fields "normalization_non_terminals" (readAll .set) = .ok (some introduced))
    (hproductions : field fields "productions" read = .ok (some productions))
    (hstart : field fields "start" read = .ok (some start)) :
    read (.object fields) = .ok (Grammar.normalized productions start introduced) := by
  change (field fields "normalization_non_terminals" (readAll .set) >>= _) = _
  rw [hintroduced]
  change (field fields "productions" read >>= _) = _
  rw [hproductions]
  change (field fields "start" read >>= _) = _
  rw [hstart]
  rfl

theorem read_span_object {start stop : Nat} (hstop : field fields "end" read = .ok (some stop))
    (hstart : field fields "start" read = .ok (some start)) :
    read (.object fields) = spanOfBounds start stop := by
  change (field fields "end" read >>= _) = _
  rw [hstop]
  change (field fields "start" read >>= _) = _
  rw [hstart]
  rfl

/-- A span that cannot be read is refused before the source is read. -/
theorem read_syntaxError_object {span : Except Error Span} {kind : SyntaxErrorKind}
    {expected : List NonTerminal} {source : String}
    (hexpected : field fields "context" read = .ok (some expected))
    (hkind : field fields "kind" read = .ok (some kind))
    (hspan : field fields "span" read = span.map some)
    (hsource : field fields "src" read = .ok (some source)) :
    read (.object fields) = span >>= fun span => syntaxErrorOfParts span kind expected source := by
  change (field fields "context" read >>= _) = _
  rw [hexpected]
  change (field fields "kind" read >>= _) = _
  rw [hkind]
  change (field fields "span" read >>= _) = _
  rw [hspan]
  cases span with
  | error e => rfl
  | ok span =>
    change (field fields "src" read >>= _) = _
    rw [hsource]
    rfl

end

instance : LawfulCodec Production where
  read_write p := by
    have hread := @read_production_object [("body", write p.body), ("pattern", write p.head)]
    exact hread (field_of_lookup (by simp) (read_write p.body))
      (field_of_lookup (by simp [List.lookup_cons]) (read_write p.head))

/-- Nothing that a normalization introduced is dropped, because a grammar has no repeats there. -/
instance : LawfulCodec Grammar where
  read_write g := by
    have hread := @read_grammar_object [("normalization_non_terminals", write g.introduced),
      ("productions", write g.productions), ("start", write g.start)]
    have hset : readAll .set (write g.introduced) = .ok g.introduced :=
      readAll_writeAll .set g.introduced
    refine Eq.trans ?_ (congrArg Except.ok g.normalized_eq_self)
    exact hread (field_of_lookup (by simp) hset)
      (field_of_lookup (by simp [List.lookup_cons]) (read_write g.productions))
      (field_of_lookup (by simp [List.lookup_cons]) (read_write g.start))

instance : LawfulCodec Span where
  read_write s := by
    have hread := @read_span_object [("end", write s.stop), ("start", write s.start)]
    have hspan : spanOfBounds s.start s.stop = .ok s := by
      rw [spanOfBounds, dif_pos s.start_le_stop]
    rw [← hspan]
    exact hread (field_of_lookup (by simp) (read_write s.stop))
      (field_of_lookup (by simp [List.lookup_cons]) (read_write s.start))

instance : LawfulCodec SyntaxErrorKind where
  read_write k := by
    have hfind : kinds.find? (fun j => kindName j = kindName k) = some k := by
      cases k <;> simp [kinds, kindName]
    change (match kinds.find? (fun j => kindName j = kindName k) with
      | none => Except.error _
      | some k => Except.ok k) = Except.ok k
    rw [hfind]

instance : LawfulCodec SyntaxError where
  read_write e := by
    have hread := @read_syntaxError_object [("context", write e.expected), ("kind", write e.kind),
      ("span", write e.span), ("src", write e.source)] (.ok e.span)
    have herror : syntaxErrorOfParts e.span e.kind e.expected e.source = .ok e := by
      rw [syntaxErrorOfParts, dif_pos e.fits]
    rw [← herror]
    exact hread (field_of_lookup (by simp) (read_write e.expected))
      (field_of_lookup (by simp [List.lookup_cons]) (read_write e.kind))
      (field_of_lookup (by simp [List.lookup_cons]) (read_write e.span))
      (field_of_lookup (by simp [List.lookup_cons]) (read_write e.source))

/-- What is read from a written value is the value, and what is read from any JSON value is written
in a form that reading and writing keep. -/
structure RoundTrips (α : Type) [Codec α] : Prop where
  value : ∀ x : α, read (write x) = .ok x
  written : ∀ v (x : α), read v = .ok x →
    read (write x) = .ok x ∧ normalForm α v = .ok (write x) ∧ normalForm α (write x) = .ok (write x)

theorem roundTrips (α : Type) [Codec α] [LawfulCodec α] : RoundTrips α where
  value := read_write
  written v x h := by
    refine ⟨read_write x, ?_, normalForm_write x⟩
    rw [normalForm, h]
    rfl

/-- Everything that can be written is read back, and what is written is a normal form. A grammar
comes back with its productions in order and with their repeats, its numbers and its warnings. -/
theorem roundTrips_all :
    (RoundTrips Terminal ∧ RoundTrips NonTerminal ∧ RoundTrips Symbol ∧ RoundTrips Production ∧
      RoundTrips Span ∧ RoundTrips SyntaxErrorKind ∧ RoundTrips SyntaxError ∧
      RoundTrips NonTerminalId ∧ RoundTrips ProductionId ∧ RoundTrips Grammar) ∧
    ∀ g : Grammar, ∃ h : Grammar, read (write g) = .ok h ∧ h.productions = g.productions ∧
      h.start = g.start ∧ h.introduced = g.introduced ∧ h.nonTerminals = g.nonTerminals ∧
      (∀ n, h.alternativeIds? n = g.alternativeIds? n) ∧ (∀ i, h.headId? i = g.headId? i) ∧
      h.warnings = g.warnings := by
  refine ⟨⟨roundTrips _, roundTrips _, roundTrips _, roundTrips _, roundTrips _, roundTrips _,
    roundTrips _, roundTrips _, roundTrips _, roundTrips _⟩, fun g => ?_⟩
  exact ⟨g, read_write g, rfl, rfl, rfl, rfl, fun _ => rfl, fun _ => rfl, rfl⟩

end ContextFree.Json
