import ContextFree.Proofs.Validity

/-! The forms in which a value may be written. A record is read from the array of its fields just as
from an object, and an object may have any other fields beside its own; but no record is read where
a field of it is missing or an element is left over, however deep it is in a value. -/
namespace ContextFree.Json

variable {α : Type} {items : List Value} {given : List (String × Value)} {v w : Value}

/-- Where the records are in the values of a type. What has no record in it is plain, and a record
has its fields in declared order. -/
inductive Layout where
  | plain
  | list (item : Layout)
  | record (fields : List (String × Layout))

namespace Layout

def span : Layout :=
  .record [("start", .plain), ("end", .plain)]

def syntaxError : Layout :=
  .record [("span", span), ("kind", .plain), ("context", .plain), ("src", .plain)]

def production : Layout :=
  .record [("pattern", .plain), ("body", .plain)]

def grammar : Layout :=
  .record [("productions", .list production), ("start", .plain),
    ("normalization_non_terminals", .plain)]

def assign (fields : List (String × Layout)) (part : String → Value) : List (String × Value) :=
  fields.map fun f => (f.1, part f.1)

end Layout

open Layout

/-- The second value is the first one with any of its records spelled in another way: each is the
array of its fields or an object that has them among others. -/
inductive Respells : Layout → Value → Value → Prop where
  | same (layout : Layout) (v : Value) : Respells layout v v
  | list {item : Layout} (pairs : List (Value × Value))
    (each : ∀ p ∈ pairs, Respells item p.1 p.2) :
    Respells (.list item) (.array (pairs.map Prod.fst)) (.array (pairs.map Prod.snd))
  | record {fields : List (String × Layout)} {v w : Value} (part part' : String → Value)
    (each : ∀ f ∈ fields, Respells f.2 (part f.1) (part' f.1))
    (spells : Spells (assign fields part) v) (spells' : Spells (assign fields part') w) :
    Respells (.record fields) v w

/-- Some record in the value, perhaps the value itself, is an array with too few elements or too
many, or an object that lacks a field. -/
inductive Misspelt : Layout → Value → Prop where
  | length {fields : List (String × Layout)} {items : List Value}
    (ne : items.length ≠ fields.length) : Misspelt (.record fields) (.array items)
  | lacks {fields : List (String × Layout)} {given : List (String × Value)}
    {f : String × Layout} (mem : f ∈ fields) (lacks : given.lookup f.1 = none) :
    Misspelt (.record fields) (.object given)
  | part {fields : List (String × Layout)} {v : Value} {part : String → Value}
    {f : String × Layout} (spells : Spells (assign fields part) v) (mem : f ∈ fields)
    (misspelt : Misspelt f.2 (part f.1)) : Misspelt (.record fields) v
  | item {item : Layout} {items : List Value} {v : Value} (mem : v ∈ items)
    (misspelt : Misspelt item v) : Misspelt (.list item) (.array items)

theorem respells_plain_iff : Respells .plain v w ↔ v = w := by
  constructor
  · intro h
    cases h
    rfl
  · rintro rfl
    exact .same _ _

theorem not_misspelt_plain : ¬ Misspelt .plain v := by
  intro h
  cases h

section Spells

variable {fs : List (String × Value)} {fields : List (String × Layout)}

theorem spells_array_iff : Spells fs (.array items) ↔ items = fs.map Prod.snd := by
  constructor
  · intro h
    cases h
    rfl
  · rintro rfl
    exact .array

theorem spells_object_iff :
    Spells fs (.object given) ↔ ∀ f ∈ fs, given.lookup f.1 = some f.2 := by
  constructor
  · intro h
    cases h with
    | object has => exact has
  · exact .object

def partOf (given : List (String × Value)) (name : String) : Value :=
  (given.lookup name).getD .null

theorem spells_partOf (h : ∀ f ∈ fields, (given.lookup f.1).isSome) :
    Spells (assign fields (partOf given)) (.object given) := by
  refine spells_object_iff.2 (List.forall_mem_map.2 fun f hf => ?_)
  obtain ⟨v, hv⟩ := Option.isSome_iff_exists.1 (h f hf)
  simp only [partOf, hv, Option.getD_some]

/-- An object may have any fields beside those of its record. -/
theorem Respells.object {given' : List (String × Value)}
    (has : ∀ f ∈ fields, (given.lookup f.1).isSome)
    (h : ∀ f ∈ fields, given'.lookup f.1 = given.lookup f.1) :
    Respells (.record fields) (.object given) (.object given') := by
  refine .record (partOf given) (partOf given') (fun f hf => ?_) (spells_partOf has)
    (spells_partOf fun f hf => ?_)
  · rw [partOf, partOf, h f hf]
    exact .same _ _
  · rw [h f hf]
    exact has f hf

end Spells

section Inversion

variable {x : α} {record name : String} {count i : Nat} {readField : Value → Except Error α}

theorem element_eq_ok_iff :
    element record count items i readField = .ok x ↔
      ∃ v, items[i]? = some v ∧ readField v = .ok x := by
  unfold element
  split
  · next v h => simp [h]
  · next h => simp [h]

theorem noMore_eq_ok_iff {u : Unit} : noMore count items = .ok u ↔ items.length ≤ count := by
  unfold noMore
  split
  · next h => simpa using h
  · next h => simpa using h

theorem require_eq_ok_iff {o : Option α} : require name o = .ok x ↔ o = some x := by
  unfold require
  split
  · simp
  · simp

theorem field_eq_ok_some_iff :
    field given name readField = .ok (some x) ↔
      ∃ v, given.lookup name = some v ∧ readField v = .ok x := by
  unfold field Value.field?
  split
  · next v h =>
    rw [h]
    cases hv : readField v <;> simp [Except.map, hv]
  · next h => simp [h]

end Inversion

/-- A field of a record and what is asked of its value. -/
structure Demand where
  name : String
  layout : Layout
  met : Value → Prop

def Demand.field (d : Demand) : String × Layout :=
  (d.name, d.layout)

/-- A record meets the demands on its fields if it has the fields, and an array has no more. -/
def Meets (demands : List Demand) : Value → Prop
  | .array items => items.length ≤ demands.length ∧
    ∀ d ∈ demands.zipIdx, ∃ v, items[d.2]? = some v ∧ d.1.met v
  | .object given => ∀ d ∈ demands, ∃ v, given.lookup d.name = some v ∧ d.met v
  | _ => False

section Meets

variable {demands : List Demand}

theorem Meets.length_eq (h : Meets demands (.array items)) : items.length = demands.length := by
  obtain ⟨hle, hitems⟩ := h
  refine Nat.le_antisymm hle (Nat.le_of_not_lt fun hlt => ?_)
  have hlast := List.getElem?_eq_getElem hlt
  obtain ⟨v, hv, -⟩ := hitems (demands[items.length], _) (List.mem_zipIdx_iff_getElem?.2 hlast)
  rw [List.getElem?_eq_none (Nat.le_refl _)] at hv
  cases hv

theorem meets_iff_of_spells {part : String → Value}
    (h : Spells (assign (demands.map Demand.field) part) v) :
    Meets demands v ↔ ∀ d ∈ demands, d.met (part d.name) := by
  cases v with
  | array items =>
    rw [spells_array_iff, assign, List.map_map, List.map_map] at h
    subst h
    have hget {d : Demand} {i : Nat} (hd : demands[i]? = some d) :
        (demands.map fun d => part d.name)[i]? = some (part d.name) := by
      rw [List.getElem?_map, hd, Option.map_some]
    constructor
    · rintro ⟨-, hmet⟩ d hd
      obtain ⟨i, hi⟩ := List.getElem?_of_mem hd
      obtain ⟨v, hv, hdv⟩ := hmet (d, i) (List.mem_zipIdx_iff_getElem?.2 hi)
      obtain rfl := Option.some.inj ((hget hi).symm.trans hv)
      exact hdv
    · intro hmet
      refine ⟨Nat.le_of_eq (List.length_map _), fun d hd => ?_⟩
      have hi := List.mem_zipIdx_iff_getElem?.1 hd
      exact ⟨_, hget hi, hmet _ (List.mem_of_getElem? hi)⟩
  | object given =>
    rw [spells_object_iff, assign, List.map_map] at h
    refine forall₂_congr fun d hd => ?_
    have hlookup : given.lookup d.name = some (part d.name) := List.forall_mem_map.1 h d hd
    simp [hlookup]
  | _ => cases h

end Meets

/-- A condition on values fits a layout if it does not depend on how a value is spelled, and nothing
misspelt meets it. -/
structure Fits (layout : Layout) (P : Value → Prop) : Prop where
  of_respells : ∀ {v w}, Respells layout v w → P v → P w
  not_misspelt : ∀ {v}, P v → ¬ Misspelt layout v

namespace Fits

theorem plain (P : Value → Prop) : Fits .plain P where
  of_respells h hv := respells_plain_iff.1 h ▸ hv
  not_misspelt _ := not_misspelt_plain

theorem list [Codec α] {item : Layout} (h : ∀ x : α, Fits item (read · = .ok x))
    (expected : Expected) (xs : List α) : Fits (.list item) (readAll expected · = .ok xs) where
  of_respells := by
    intro v w hvw hv
    cases hvw with
    | same => exact hv
    | list pairs each =>
      change (pairs.map Prod.fst).mapM read = .ok xs at hv
      change (pairs.map Prod.snd).mapM read = .ok xs
      -- The induction is on the elements in both spellings, and what is read of them is shared.
      induction pairs generalizing xs with
      | nil => exact hv
      | cons p pairs ih =>
        obtain ⟨hp, hpairs⟩ := List.forall_mem_cons.1 each
        rw [List.map_cons, List.mapM_cons] at hv ⊢
        simp only [bind_eq_ok_iff] at hv ⊢
        obtain ⟨x, hx, rest, hrest, hxs⟩ := hv
        exact ⟨x, (h x).of_respells hp hx, rest, ih rest hpairs hrest, hxs⟩
  not_misspelt := by
    intro v hv hmisspelt
    cases hmisspelt with
    | item mem misspelt =>
      obtain ⟨before, after, rfl⟩ := List.append_of_mem mem
      change (before ++ _ :: after).mapM read = .ok xs at hv
      simp only [List.mapM_append, List.mapM_cons, bind_eq_ok_iff] at hv
      obtain ⟨-, -, -, ⟨x, hx, -⟩, -⟩ := hv
      exact (h x).not_misspelt hx misspelt

theorem record {demands : List Demand} (h : ∀ d ∈ demands, Fits d.layout d.met) :
    Fits (.record (demands.map Demand.field)) (Meets demands) where
  of_respells := by
    intro v w hvw hv
    cases hvw with
    | same => exact hv
    | record part part' each spells spells' =>
      rw [meets_iff_of_spells spells] at hv
      rw [meets_iff_of_spells spells']
      intro d hd
      exact (h d hd).of_respells (each d.field (List.mem_map_of_mem hd)) (hv d hd)
  not_misspelt := by
    intro v hv hmisspelt
    cases hmisspelt with
    | length ne => exact ne (hv.length_eq.trans (List.length_map _).symm)
    | lacks mem lacks =>
      obtain ⟨d, hd, rfl⟩ := List.mem_map.1 mem
      obtain ⟨u, hu, -⟩ := hv d hd
      exact absurd (hu.symm.trans lacks) (Option.some_ne_none u)
    | part spells mem misspelt =>
      obtain ⟨d, hd, rfl⟩ := List.mem_map.1 mem
      exact (h d hd).not_misspelt ((meets_iff_of_spells spells).1 hv d hd) misspelt

end Fits

def spanDemands (s : Span) : List Demand :=
  [⟨"start", .plain, (read · = .ok s.start)⟩, ⟨"end", .plain, (read · = .ok s.stop)⟩]

theorem read_span_eq_ok_iff {s : Span} :
    (read v : Except Error Span) = .ok s ↔ Meets (spanDemands s) v := by
  have hbounds (m n : Nat) : spanOfBounds m n = .ok s ↔ s.start = m ∧ s.stop = n := by
    rw [spanOfBounds_eq_ok_iff, Span.ofBounds_eq_ok_iff]
  cases v with
  | array items =>
    change (element "SerializedSpan" 2 items 0 read >>= fun start =>
      element "SerializedSpan" 2 items 1 read >>= fun stop =>
      noMore 2 items >>= fun _ => spanOfBounds start stop) = .ok s ↔ _
    simp only [bind_eq_ok_iff, element_eq_ok_iff, noMore_eq_ok_iff, hbounds, Meets, spanDemands,
      List.zipIdx_cons, List.zipIdx_nil, List.forall_mem_cons]
    constructor
    · rintro ⟨_, hstart, _, hstop, -, hlength, rfl, rfl⟩
      exact ⟨hlength, hstart, hstop, List.forall_mem_nil _⟩
    · rintro ⟨hlength, hstart, hstop, -⟩
      exact ⟨_, hstart, _, hstop, ⟨⟩, hlength, rfl, rfl⟩
  | object given =>
    change (field given "end" read >>= fun stop => field given "start" read >>= fun start =>
      require "start" start >>= fun start => require "end" stop >>= fun stop =>
      spanOfBounds start stop) = .ok s ↔ _
    simp only [bind_eq_ok_iff, require_eq_ok_iff, hbounds, Meets, spanDemands,
      List.forall_mem_cons, ← field_eq_ok_some_iff]
    constructor
    · rintro ⟨_, hstop, _, hstart, _, rfl, _, rfl, rfl, rfl⟩
      exact ⟨hstart, hstop, List.forall_mem_nil _⟩
    · rintro ⟨hstart, hstop, -⟩
      exact ⟨_, hstop, _, hstart, _, rfl, _, rfl, rfl, rfl⟩
  | _ => simp [read, mismatch, Meets]

def productionDemands (p : Production) : List Demand :=
  [⟨"pattern", .plain, (read · = .ok p.head)⟩, ⟨"body", .plain, (read · = .ok p.body)⟩]

theorem read_production_eq_ok_iff {p : Production} :
    (read v : Except Error Production) = .ok p ↔ Meets (productionDemands p) v := by
  have hmk (head : NonTerminal) (body : List Symbol) :
      (pure ⟨head, body⟩ : Except Error Production) = .ok p ↔ p.head = head ∧ p.body = body := by
    cases p
    simp [pure, Except.pure, eq_comm]
  cases v with
  | array items =>
    change (element "Production" 2 items 0 read >>= fun head =>
      element "Production" 2 items 1 read >>= fun body =>
      noMore 2 items >>= fun _ => pure ⟨head, body⟩) = .ok p ↔ _
    simp only [bind_eq_ok_iff, element_eq_ok_iff, noMore_eq_ok_iff, hmk, Meets, productionDemands,
      List.zipIdx_cons, List.zipIdx_nil, List.forall_mem_cons]
    constructor
    · rintro ⟨_, hhead, _, hbody, -, hlength, rfl, rfl⟩
      exact ⟨hlength, hhead, hbody, List.forall_mem_nil _⟩
    · rintro ⟨hlength, hhead, hbody, -⟩
      exact ⟨_, hhead, _, hbody, ⟨⟩, hlength, rfl, rfl⟩
  | object given =>
    change (field given "body" read >>= fun body => field given "pattern" read >>= fun head =>
      require "pattern" head >>= fun head => require "body" body >>= fun body =>
      pure ⟨head, body⟩) = .ok p ↔ _
    simp only [bind_eq_ok_iff, require_eq_ok_iff, hmk, Meets, productionDemands,
      List.forall_mem_cons, ← field_eq_ok_some_iff]
    constructor
    · rintro ⟨_, hbody, _, hhead, _, rfl, _, rfl, rfl, rfl⟩
      exact ⟨hhead, hbody, List.forall_mem_nil _⟩
    · rintro ⟨hhead, hbody, -⟩
      exact ⟨_, hbody, _, hhead, _, rfl, _, rfl, rfl, rfl⟩
  | _ => simp [read, mismatch, Meets]

def syntaxErrorDemands (e : SyntaxError) : List Demand :=
  [⟨"span", span, (read · = .ok e.span)⟩, ⟨"kind", .plain, (read · = .ok e.kind)⟩,
    ⟨"context", .plain, (read · = .ok e.expected)⟩, ⟨"src", .plain, (read · = .ok e.source)⟩]

theorem read_syntaxError_eq_ok_iff {e : SyntaxError} :
    (read v : Except Error SyntaxError) = .ok e ↔ Meets (syntaxErrorDemands e) v := by
  have hparts (span : Span) (kind : SyntaxErrorKind) (expected : List NonTerminal)
      (source : String) : syntaxErrorOfParts span kind expected source = .ok e ↔
        e.span = span ∧ e.kind = kind ∧ e.expected = expected ∧ e.source = source := by
    rw [syntaxErrorOfParts_eq_ok_iff, SyntaxError.ofParts_eq_ok_iff]
  cases v with
  | array items =>
    change (element "SerializedSyntaxError" 4 items 0 read >>= fun span =>
      element "SerializedSyntaxError" 4 items 1 read >>= fun kind =>
      element "SerializedSyntaxError" 4 items 2 read >>= fun expected =>
      element "SerializedSyntaxError" 4 items 3 read >>= fun source =>
      noMore 4 items >>= fun _ => syntaxErrorOfParts span kind expected source) = .ok e ↔ _
    simp only [bind_eq_ok_iff, element_eq_ok_iff, noMore_eq_ok_iff, hparts, Meets,
      syntaxErrorDemands, List.zipIdx_cons, List.zipIdx_nil, List.forall_mem_cons]
    constructor
    · rintro ⟨_, hspan, _, hkind, _, hexpected, _, hsource, -, hlength, rfl, rfl, rfl, rfl⟩
      exact ⟨hlength, hspan, hkind, hexpected, hsource, List.forall_mem_nil _⟩
    · rintro ⟨hlength, hspan, hkind, hexpected, hsource, -⟩
      exact ⟨_, hspan, _, hkind, _, hexpected, _, hsource, ⟨⟩, hlength, rfl, rfl, rfl, rfl⟩
  | object given =>
    change (field given "context" read >>= fun expected => field given "kind" read >>= fun kind =>
      field given "span" read >>= fun span => field given "src" read >>= fun source =>
      require "span" span >>= fun span => require "kind" kind >>= fun kind =>
      require "context" expected >>= fun expected => require "src" source >>= fun source =>
      syntaxErrorOfParts span kind expected source) = .ok e ↔ _
    simp only [bind_eq_ok_iff, require_eq_ok_iff, hparts, Meets, syntaxErrorDemands,
      List.forall_mem_cons, ← field_eq_ok_some_iff]
    constructor
    · rintro ⟨_, hexpected, _, hkind, _, hspan, _, hsource, _, rfl, _, rfl, _, rfl, _, rfl,
        rfl, rfl, rfl, rfl⟩
      exact ⟨hspan, hkind, hexpected, hsource, List.forall_mem_nil _⟩
    · rintro ⟨hspan, hkind, hexpected, hsource, -⟩
      exact ⟨_, hexpected, _, hkind, _, hspan, _, hsource, _, rfl, _, rfl, _, rfl, _, rfl,
        rfl, rfl, rfl, rfl⟩
  | _ => simp [read, mismatch, Meets]

def grammarDemands (productions : List Production) (start : NonTerminal)
    (introduced : List NonTerminal) : List Demand :=
  [⟨"productions", .list production, (read · = .ok productions)⟩,
    ⟨"start", .plain, (read · = .ok start)⟩,
    ⟨"normalization_non_terminals", .plain, (readAll .set · = .ok introduced)⟩]

theorem read_grammar_eq_ok_iff {g : Grammar} : (read v : Except Error Grammar) = .ok g ↔
    ∃ productions start introduced, Grammar.normalized productions start introduced = g ∧
      Meets (grammarDemands productions start introduced) v := by
  cases v with
  | array items =>
    change (element "SerializedGrammar" 3 items 0 read >>= fun productions =>
      element "SerializedGrammar" 3 items 1 read >>= fun start =>
      element "SerializedGrammar" 3 items 2 (readAll .set) >>= fun introduced =>
      noMore 3 items >>= fun _ =>
      pure (Grammar.normalized productions start introduced)) = .ok g ↔ _
    simp only [bind_eq_ok_iff, element_eq_ok_iff, noMore_eq_ok_iff, Meets, grammarDemands,
      List.zipIdx_cons, List.zipIdx_nil, List.forall_mem_cons]
    constructor
    · rintro ⟨productions, hproductions, start, hstart, introduced, hintroduced, -, hlength, hg⟩
      exact ⟨productions, start, introduced, Except.ok.inj hg, hlength, hproductions, hstart,
        hintroduced, List.forall_mem_nil _⟩
    · rintro ⟨productions, start, introduced, rfl, hlength, hproductions, hstart, hintroduced, -⟩
      exact ⟨productions, hproductions, start, hstart, introduced, hintroduced, ⟨⟩, hlength, rfl⟩
  | object given =>
    change (field given "normalization_non_terminals" (readAll .set) >>= fun introduced =>
      field given "productions" read >>= fun productions =>
      field given "start" read >>= fun start =>
      require "productions" productions >>= fun productions =>
      require "start" start >>= fun start =>
      require "normalization_non_terminals" introduced >>= fun introduced =>
      pure (Grammar.normalized productions start introduced)) = .ok g ↔ _
    simp only [bind_eq_ok_iff, require_eq_ok_iff, Meets, grammarDemands, List.forall_mem_cons,
      ← field_eq_ok_some_iff]
    constructor
    · rintro ⟨_, hintroduced, _, hproductions, _, hstart, productions, rfl, start, rfl,
        introduced, rfl, hg⟩
      exact ⟨productions, start, introduced, Except.ok.inj hg, hproductions, hstart,
        hintroduced, List.forall_mem_nil _⟩
    · rintro ⟨productions, start, introduced, rfl, hproductions, hstart, hintroduced, -⟩
      exact ⟨_, hintroduced, _, hproductions, _, hstart, productions, rfl, start, rfl,
        introduced, rfl, rfl⟩
  | _ => simp [read, mismatch, Meets]

namespace Fits

theorem read_span (s : Span) : Fits span (read · = .ok s) := by
  have hdemands : ∀ d ∈ spanDemands s, Fits d.layout d.met := by simp [spanDemands, plain]
  simp only [read_span_eq_ok_iff]
  exact record hdemands

theorem read_production (p : Production) : Fits production (read · = .ok p) := by
  have hdemands : ∀ d ∈ productionDemands p, Fits d.layout d.met := by
    simp [productionDemands, plain]
  simp only [read_production_eq_ok_iff]
  exact record hdemands

theorem read_syntaxError (e : SyntaxError) : Fits syntaxError (read · = .ok e) := by
  have hdemands : ∀ d ∈ syntaxErrorDemands e, Fits d.layout d.met := by
    simp [syntaxErrorDemands, plain, read_span]
  simp only [read_syntaxError_eq_ok_iff]
  exact record hdemands

theorem read_grammar (g : Grammar) : Fits grammar (read · = .ok g) := by
  simp only [read_grammar_eq_ok_iff]
  have hmeets (productions : List Production) (start : NonTerminal)
      (introduced : List NonTerminal) :
      Fits grammar (Meets (grammarDemands productions start introduced)) := by
    have hdemands : ∀ d ∈ grammarDemands productions start introduced, Fits d.layout d.met := by
      have hproductions : Fits (.list production) (read · = .ok productions) :=
        list read_production .sequence productions
      simp [grammarDemands, plain, hproductions]
    exact record hdemands
  constructor
  · rintro v w hvw ⟨productions, start, introduced, hg, hv⟩
    exact ⟨productions, start, introduced, hg, (hmeets _ _ _).of_respells hvw hv⟩
  · rintro v ⟨productions, start, introduced, -, hv⟩
    exact (hmeets _ _ _).not_misspelt hv

end Fits

/-- A value is read as itself from every spelling of what is written for it, and nothing is read
from what is misspelt. -/
structure ReadsSpellings (α : Type) [Codec α] (layout : Layout) : Prop where
  respelled : ∀ (x : α) (v : Value), Respells layout (write x) v →
    read v = .ok x ∧ (read v : Except Error α) = read (write x)
  misspelt : ∀ v, Misspelt layout v → ∃ e, (read v : Except Error α) = .error e

theorem readsSpellings [Codec α] [LawfulCodec α] {layout : Layout}
    (h : ∀ x : α, Fits layout (read · = .ok x)) : ReadsSpellings α layout where
  respelled := by
    intro x v hv
    have hread := (h x).of_respells hv (read_write x)
    exact ⟨hread, hread.trans (read_write x).symm⟩
  misspelt := by
    intro v hv
    cases hread : (read v : Except Error α) with
    | error e => exact ⟨e, rfl⟩
    | ok x => exact absurd hv ((h x).not_misspelt hread)

/-- Spans, productions, syntax errors and grammars are read from objects and arrays alike, with
whatever fields beside their own, at every depth; and only where every record has just its elements
or all its fields. -/
theorem readsSpellings_all :
    ReadsSpellings Span span ∧ ReadsSpellings Production production ∧
      ReadsSpellings SyntaxError syntaxError ∧ ReadsSpellings Grammar grammar :=
  ⟨readsSpellings Fits.read_span, readsSpellings Fits.read_production,
    readsSpellings Fits.read_syntaxError, readsSpellings Fits.read_grammar⟩

/-- The grammar is an array and its production an object with a note. Where the production is the
array of its body alone, there is no grammar. -/
theorem readsSpellings_grammar_with_note :
    let g := Grammar.normalized [⟨⟨"S"⟩, [.terminal ⟨"a"⟩]⟩] ⟨"S"⟩ []
    let body : Value := .array [.object [("Terminal", .string "a")]]
    let spelled (production : Value) : Value :=
      .array [.array [production], .string "S", .array []]
    (read (spelled (.object [("note", .array [.null]), ("pattern", .string "S"), ("body", body)])) :
        Except Error Grammar) = .ok g ∧
      ∃ e, (read (spelled (.array [body])) : Except Error Grammar) = .error e := by
  intro g body spelled
  have hspelled (production : Value) : Spells (assign [("productions", .list Layout.production),
      ("start", .plain), ("normalization_non_terminals", .plain)]
        (partOf [("normalization_non_terminals", .array []), ("productions", .array [production]),
          ("start", .string "S")])) (spelled production) := .array
  constructor
  · refine (readsSpellings_all.2.2.2.respelled g _ ?_).1
    refine .record _ _ ?_ (spells_partOf (by simp [List.lookup_cons])) (hspelled _)
    refine List.forall_mem_cons.2 ⟨.list [(_, _)] (List.forall_mem_singleton.2 ?_),
      List.forall_mem_cons.2 ⟨.same _ _, List.forall_mem_singleton.2 (.same _ _)⟩⟩
    exact .object (by simp [List.lookup_cons])
      (List.forall_mem_cons.2 ⟨rfl, List.forall_mem_singleton.2 rfl⟩)
  · refine readsSpellings_all.2.2.2.misspelt _ (.part (hspelled _) List.mem_cons_self ?_)
    exact .item (List.mem_singleton_self _) (.length (by decide))

end ContextFree.Json
