import ContextFree.Proofs.Record
import ContextFree.Proofs.Warnings

/-! How a grammar comes by its stored warnings. While it is made it is a record with complete tables and no
warnings yet. The analysis of that record reads its tables, and the record is finished by storing what
was found. It finds the warnings of the grammar, and finds them again in the finished record. -/
namespace ContextFree.Record

section

variable (r : Record)

def mentions (a : NonTerminal) : Bool :=
  match r.id? a with
  | none => false
  | some n => n ≠ Grammar.startId || r.isDefined n ||
    r.productions.any fun p => p.nonTerminals.contains a

/-- The names of the numbers with `c`, in ascending order. -/
def namesWhere (c : NonTerminalId → Bool) : List NonTerminal :=
  ascending ((r.nonTerminalIds.filter c).filterMap fun n => r.nonTerminals[n.toNat]?)

/-- The warnings that the analysis of the record finds; it does not look at those that are stored. -/
def findings : List Warning :=
  (if r.isDefined Grammar.startId then [] else [⟨.missingStart, r.start⟩]) ++
    (r.namesWhere fun n => n ≠ Grammar.startId && !r.isDefined n).map (.mk .undefined) ++
    (r.namesWhere fun n => r.isDefined n && !r.has n .reachable).map (.mk .unreachable) ++
    (r.namesWhere fun n => r.isDefined n && !r.has n .productive).map (.mk .unterminated) ++
    (ascending (r.introduced.filter fun a => !r.mentions a)).map (.mk .unknownIntroduced)

end

def unfinished (productions : List Production) (start : NonTerminal)
    (introduced : List NonTerminal) : Record :=
  { Tables.build start productions with
    start := start
    productions := productions
    introduced := distinct introduced
    warnings := [] }

/-- The record that is made of a grammar: the unfinished one is analysed, and what was found is stored. -/
def make (productions : List Production) (start : NonTerminal) (introduced : List NonTerminal) :
    Record :=
  let r := unfinished productions start introduced
  { r with warnings := r.findings }

theorem isOf_unfinished (productions : List Production) (start : NonTerminal)
    (introduced : List NonTerminal) :
    (unfinished productions start introduced).IsOf (.normalized productions start introduced) :=
  ⟨rfl, rfl, rfl, Tables.answers_build (.normalized productions start introduced)⟩

theorem IsOf.store {r : Record} {g : Grammar} (h : r.IsOf g) (ws : List Warning) :
    IsOf { r with warnings := ws } g :=
  ⟨h.start, h.productions, h.introduced, h.tables⟩

namespace IsOf

variable {r : Record} {g : Grammar} {a : NonTerminal} (h : r.IsOf g)
include h

theorem mentions_eq (a : NonTerminal) : r.mentions a = g.mentions a := by
  rw [mentions, Grammar.mentions, h.id?_eq]
  cases hn : g.id? a with
  | none => rfl
  | some n =>
    have ha : g.nonTerminal? n = some a := Grammar.id?_eq_some_iff.1 hn
    simp only [h.isDefined_eq ha, h.productions, Grammar.isUsed]

/-! The findings are the warnings, kind by kind. -/

theorem mem_namesWhere_iff {c : NonTerminalId → Bool} :
    a ∈ r.namesWhere c ↔ ∃ n, g.nonTerminal? n = some a ∧ c n = true := by
  simp only [namesWhere, mem_ascending, List.mem_filterMap, List.mem_filter, h.nonTerminalIds_eq,
    h.getElem?_nonTerminals]
  constructor
  · intro hn
    obtain ⟨n, ⟨-, hc⟩, ha⟩ := hn
    exact ⟨n, ha, hc⟩
  · intro hn
    obtain ⟨n, ha, hc⟩ := hn
    exact ⟨n, ⟨Grammar.mem_nonTerminalIds_of_eq_some ha, hc⟩, ha⟩

theorem namesWhere_eq {c : NonTerminalId → Bool} {as : List NonTerminal} (hs : IsAscending as)
    (hn : as ⊆ g.nonTerminals)
    (hc : ∀ n a, g.nonTerminal? n = some a → (c n = true ↔ a ∈ as)) : r.namesWhere c = as := by
  have hnames : IsAscending (r.namesWhere c) := isAscending_ascending _
  apply hnames.eq_of_mem_iff hs
  intro a
  rw [h.mem_namesWhere_iff]
  constructor
  · intro hm
    obtain ⟨n, ha, hcn⟩ := hm
    exact (hc n a ha).1 hcn
  · intro hm
    obtain ⟨n, -, ha⟩ := Grammar.exists_nonTerminal?_eq (hn hm)
    exact ⟨n, ha, (hc n a ha).2 hm⟩

theorem namesWhere_undefined :
    (r.namesWhere fun n => n ≠ Grammar.startId && !r.isDefined n) = g.undefined := by
  have hs : IsAscending g.undefined := isAscending_ascending _
  apply h.namesWhere_eq hs
  · intro a ha
    exact (List.mem_filter.1 (mem_ascending.1 ha)).1
  · intro n a ha
    have hm : a ∈ g.nonTerminals := List.mem_of_getElem? ha
    rw [Grammar.undefined, mem_ascending, List.mem_filter, and_iff_right hm, h.isDefined_eq ha]
    simp only [ne_eq, Grammar.eq_startId_iff ha]

theorem namesWhere_lacking (q : Quality) :
    (r.namesWhere fun n => r.isDefined n && !r.has n q) = g.lacking q := by
  have hs : IsAscending (g.lacking q) := isAscending_ascending _
  apply h.namesWhere_eq hs
  · intro a ha
    obtain ⟨⟨p, hp, he⟩, -⟩ := Grammar.mem_lacking_iff.1 ha
    exact he ▸ Grammar.head_mem_nonTerminals hp
  · intro n a ha
    rw [Grammar.mem_lacking_iff, ← h.isDefined_iff ha, ← h.has_iff ha, Bool.and_eq_true,
      Bool.not_eq_true', Bool.eq_false_iff]

/-- The analysis finds the warnings of the grammar. -/
theorem findings_eq : r.findings = g.warnings := by
  have hstart : g.nonTerminal? Grammar.startId = some g.start := Grammar.nonTerminal?_startId g
  have hunknown : r.introduced.filter (fun a => !r.mentions a) =
      g.introduced.filter fun a => !g.mentions a := by
    rw [h.introduced]
    exact List.filter_congr fun a _ => congrArg not (h.mentions_eq a)
  rw [findings, Grammar.warnings, h.isDefined_eq hstart, h.start, h.namesWhere_undefined,
    h.namesWhere_lacking, h.namesWhere_lacking, hunknown]
  rfl

end IsOf

theorem warnings_make (productions : List Production) (start : NonTerminal)
    (introduced : List NonTerminal) :
    (make productions start introduced).warnings =
      (Grammar.normalized productions start introduced).warnings :=
  (isOf_unfinished productions start introduced).findings_eq

/-- What was found in the unfinished record is found again in the finished one. -/
theorem findings_make (productions : List Production) (start : NonTerminal)
    (introduced : List NonTerminal) :
    (make productions start introduced).findings = (make productions start introduced).warnings := by
  have hmade : (make productions start introduced).IsOf _ :=
    (isOf_unfinished productions start introduced).store _
  rw [hmade.findings_eq, warnings_make]

def ofGrammar (g : Grammar) : Record :=
  make g.productions g.start g.introduced

theorem warnings_ofGrammar (g : Grammar) : (ofGrammar g).warnings = g.warnings := by
  rw [ofGrammar, warnings_make, Grammar.normalized_eq_self]

end ContextFree.Record
