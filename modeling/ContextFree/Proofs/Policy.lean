import ContextFree.Ascending
import ContextFree.Warning.Policy
import Mathlib.Data.List.Permutation

/-! Settings decide what becomes of the warnings of each grammar that is made under them, whatever
was made before it. -/
namespace ContextFree

namespace WarningPolicy

variable {p : WarningPolicy} {s : Setting} {settings others : List Setting} {k : WarningKind}

theorem strict_apply : (p.apply s).strict = true ↔ s = .strict ∨ p.strict = true := by
  cases s <;> simp [apply]

theorem mem_allowed_apply : k ∈ (p.apply s).allowed ↔ s = .allow k ∨ k ∈ p.allowed := by
  cases s with
  | strict => simp [apply]
  | allow l => simp [apply, mem_insertAscending, eq_comm]

theorem isAscending_allowed_apply (s : Setting) (h : IsAscending p.allowed) :
    IsAscending (p.apply s).allowed := by
  cases s with
  | strict => exact h
  | allow l => exact isAscending_insertAscending l h

theorem strict_foldl_apply :
    (settings.foldl apply p).strict = true ↔ .strict ∈ settings ∨ p.strict = true := by
  induction settings generalizing p with
  | nil => simp
  | cons s settings ih =>
    simp only [List.foldl_cons, ih, strict_apply, List.mem_cons]
    simp only [or_assoc, or_left_comm, eq_comm]

theorem mem_allowed_foldl_apply :
    k ∈ (settings.foldl apply p).allowed ↔ .allow k ∈ settings ∨ k ∈ p.allowed := by
  induction settings generalizing p with
  | nil => simp
  | cons s settings ih =>
    simp only [List.foldl_cons, ih, mem_allowed_apply, List.mem_cons]
    simp only [or_assoc, or_left_comm, eq_comm]

theorem isAscending_allowed_foldl_apply (settings : List Setting) (h : IsAscending p.allowed) :
    IsAscending (settings.foldl apply p).allowed := by
  induction settings generalizing p with
  | nil => exact h
  | cons s settings ih => exact ih (isAscending_allowed_apply s h)

theorem strict_ofSettings : (ofSettings settings).strict = true ↔ .strict ∈ settings := by
  simp [ofSettings, strict_foldl_apply]

theorem mem_allowed_ofSettings : k ∈ (ofSettings settings).allowed ↔ .allow k ∈ settings := by
  simp [ofSettings, mem_allowed_foldl_apply]

theorem allows_ofSettings : (ofSettings settings).allows k = true ↔ .allow k ∈ settings := by
  rw [allows, List.contains_iff_mem, mem_allowed_ofSettings]

/-- The order and repeats of settings do not count. -/
theorem ofSettings_congr (h : ∀ s, s ∈ settings ↔ s ∈ others) :
    ofSettings settings = ofSettings others := by
  have hs : (ofSettings settings).strict = (ofSettings others).strict := by
    rw [Bool.eq_iff_iff, strict_ofSettings, strict_ofSettings]
    exact h .strict
  have ha : (ofSettings settings).allowed = (ofSettings others).allowed := by
    have hnil : IsAscending ([] : List WarningKind) := List.Pairwise.nil
    apply (isAscending_allowed_foldl_apply settings hnil).eq_of_mem_iff
      (isAscending_allowed_foldl_apply others hnil)
    intro k
    exact mem_allowed_ofSettings.trans ((h (.allow k)).trans mem_allowed_ofSettings.symm)
  exact congrArg₂ WarningPolicy.mk hs ha

def due (p : WarningPolicy) (ws : List Warning) : List Warning :=
  ws.filter fun w => !p.allows w.kind

theorem due_ofSettings (settings : List Setting) :
    (ofSettings settings).due = List.filter fun w => .allow w.kind ∉ settings := by
  funext ws
  apply List.filter_congr
  intro w _
  rw [Bool.eq_iff_iff, Bool.not_eq_true', Bool.eq_false_iff, decide_eq_true_eq, ne_eq,
    allows_ofSettings]

end WarningPolicy

namespace WarningCollector

variable {c d : WarningCollector}

theorem receiveAll_of_strict (h : c.policy.strict = true) (ws : List Warning) :
    c.receiveAll ws = ((c.policy.due ws).head?.map .refused, c) := by
  induction ws with
  | nil => rfl
  | cons w ws ih =>
    by_cases hw : c.policy.allows w.kind = true
    · simp [receiveAll, receive, WarningPolicy.due, hw, ih]
    · simp [receiveAll, receive, WarningPolicy.due, hw, h]

theorem receiveAll_of_not_strict (h : c.policy.strict = false) (ws : List Warning) :
    c.receiveAll ws = (none, { c with warnings := c.warnings ++ c.policy.due ws }) := by
  -- For any collector, since the rest of the warnings come to one that has this warning already.
  induction ws generalizing c with
  | nil => simp [receiveAll, WarningPolicy.due]
  | cons w ws ih =>
    by_cases hw : c.policy.allows w.kind = true
    · simp [receiveAll, receive, WarningPolicy.due, hw, ih h]
    · have ih := ih (c := { c with warnings := c.warnings ++ [w] }) h
      simp [receiveAll, receive, WarningPolicy.due, hw, h, ih]

abbrev Request := List Production × NonTerminal

def Request.grammar (r : Request) : Grammar :=
  .ofProductions r.1 r.2

/-- The grammar, or the first of the warnings that stand against it. -/
def Request.verdict (r : Request) : List Warning → Except GrammarError Grammar
  | [] => .ok r.grammar
  | w :: _ => .error (.refused w)

variable {r : Request} {rs : List Request}

theorem construct_of_strict (h : c.policy.strict = true) (r : Request) :
    c.construct r.1 r.2 = (r.verdict (c.policy.due r.grammar.warnings), c) := by
  simp only [construct, Request.grammar, receiveAll_of_strict h]
  cases c.policy.due (Grammar.ofProductions r.1 r.2).warnings <;> rfl

theorem construct_of_not_strict (h : c.policy.strict = false) (r : Request) :
    c.construct r.1 r.2 =
      (.ok r.grammar, { c with warnings := c.warnings ++ c.policy.due r.grammar.warnings }) := by
  simp only [construct, Request.grammar, receiveAll_of_not_strict h]

/-- Nothing is collected on the way to an error. -/
theorem eq_of_construct_eq_error {e : GrammarError} (h : c.construct r.1 r.2 = (.error e, d)) :
    d = c := by
  cases hs : c.policy.strict with
  | true =>
    rw [construct_of_strict hs] at h
    exact (Prod.mk.inj h).2.symm
  | false =>
    rw [construct_of_not_strict hs] at h
    cases (Prod.mk.inj h).1

theorem constructAll_cons (c : WarningCollector) (r : Request) (rs : List Request) :
    c.constructAll (r :: rs) = c.construct r.1 r.2 :: (c.construct r.1 r.2).2.constructAll rs :=
  rfl

theorem length_constructAll (c : WarningCollector) (rs : List Request) :
    (c.constructAll rs).length = rs.length := by
  induction rs generalizing c with
  | nil => rfl
  | cons r rs ih => rw [constructAll_cons, List.length_cons, List.length_cons, ih]

theorem constructAll_of_strict (h : c.policy.strict = true) (rs : List Request) :
    c.constructAll rs = rs.map fun r => (r.verdict (c.policy.due r.grammar.warnings), c) := by
  induction rs with
  | nil => rfl
  | cons r rs ih => rw [constructAll_cons, construct_of_strict h, ih, List.map_cons]

theorem getElem?_constructAll_of_not_strict (h : c.policy.strict = false) {i : Nat}
    (hr : rs[i]? = some r) :
    (c.constructAll rs)[i]? = some (.ok r.grammar, { c with
      warnings := c.warnings ++ (rs.take (i + 1)).flatMap fun r => c.policy.due r.grammar.warnings }) := by
  induction rs generalizing c i with
  | nil => cases hr
  | cons q rs ih =>
    rw [constructAll_cons, construct_of_not_strict h]
    cases i with
    | zero =>
      obtain rfl : q = r := Option.some.inj hr
      simp
    | succ i =>
      have hrest := ih (c := { c with warnings := c.warnings ++ c.policy.due q.grammar.warnings }) h hr
      rw [List.getElem?_cons_succ, hrest, List.take_succ_cons, List.flatMap_cons, List.append_assoc]

/-- A result is what the request gets when no other comes before it. -/
theorem map_fst_getElem?_constructAll (c : WarningCollector) {i : Nat} (hr : rs[i]? = some r) :
    (c.constructAll rs)[i]?.map Prod.fst = some (c.construct r.1 r.2).1 := by
  cases hs : c.policy.strict with
  | true => rw [constructAll_of_strict hs, List.getElem?_map, hr, construct_of_strict hs]; rfl
  | false => rw [getElem?_constructAll_of_not_strict hs hr, construct_of_not_strict hs]; rfl

/-- With strict settings each grammar is made or refused for its first due warning, and nothing is
collected. With other settings every grammar is made, and the due warnings are collected in order. A
result does not depend on the requests before it, nor on the order and repeats of the settings, and a
refusal leaves the collector as it was. -/
theorem constructAll_ofSettings (settings : List WarningPolicy.Setting) (rs : List Request) :
    let policy := WarningPolicy.ofSettings settings
    let due (r : Request) := r.grammar.warnings.filter fun w => .allow w.kind ∉ settings
    let run := (ofPolicy policy).constructAll rs
    run.length = rs.length ∧
    (.strict ∈ settings → ∀ (i : Nat) (r : Request), rs[i]? = some r →
      run[i]? = some (r.verdict (due r), ⟨policy, []⟩)) ∧
    (.strict ∉ settings → ∀ (i : Nat) (r : Request), rs[i]? = some r →
      run[i]? = some (.ok r.grammar, ⟨policy, (rs.take (i + 1)).flatMap due⟩)) ∧
    (∀ (i : Nat) (r : Request), rs[i]? = some r →
      run[i]?.map Prod.fst = some ((ofPolicy policy).construct r.1 r.2).1) ∧
    (∀ others, (∀ s, s ∈ settings ↔ s ∈ others) →
      (ofPolicy (.ofSettings others)).constructAll rs = run) ∧
    ∀ (c d : WarningCollector) (r : Request) e, c.construct r.1 r.2 = (.error e, d) → d = c := by
  intro policy due run
  have hdue : (fun r : Request => policy.due r.grammar.warnings) = due := by
    simp only [policy, due, WarningPolicy.due_ofSettings]
  refine ⟨length_constructAll _ rs, fun hs i r hr => ?_, fun hs i r hr => ?_,
    fun i r hr => map_fst_getElem?_constructAll _ hr, fun others ho => ?_,
    fun c d r e he => eq_of_construct_eq_error he⟩
  · have hp : policy.strict = true := WarningPolicy.strict_ofSettings.2 hs
    have hrun : run = rs.map fun r => (r.verdict (policy.due r.grammar.warnings), ⟨policy, []⟩) :=
      constructAll_of_strict (c := ofPolicy policy) hp rs
    rw [hrun, List.getElem?_map, hr, Option.map_some, ← hdue]
  · have hp : policy.strict = false := Bool.eq_false_iff.2 (mt WarningPolicy.strict_ofSettings.1 hs)
    have hrun := getElem?_constructAll_of_not_strict (c := ofPolicy policy) hp hr
    rw [← hdue]
    exact hrun
  · rw [← WarningPolicy.ofSettings_congr ho]

/-- Both grammars have an unreachable non-terminal, which is allowed. The first has an undefined one,
too, and its refusal leaves no trace on the second. -/
theorem constructAll_refusing_undefined :
    let settings : List WarningPolicy.Setting := [.allow .unreachable, .strict, .allow .unreachable]
    let r : Request := ([⟨⟨"S"⟩, [.nonTerminal ⟨"U"⟩]⟩, ⟨⟨"B"⟩, []⟩], ⟨"S"⟩)
    let s : Request := ([⟨⟨"S"⟩, []⟩, ⟨⟨"B"⟩, []⟩], ⟨"S"⟩)
    let policy := WarningPolicy.ofSettings settings
    let run := (ofPolicy policy).constructAll [r, s]
    .strict ∈ settings ∧ s.grammar.warnings = [⟨.unreachable, ⟨"B"⟩⟩] ∧
      run[0]? = some (.error (.refused ⟨.undefined, ⟨"U"⟩⟩), ⟨policy, []⟩) ∧
      run[1]? = some (.ok s.grammar, ⟨policy, []⟩) := by
  intro settings r s policy run
  have hs : .strict ∈ settings := by decide
  have hrun := (constructAll_ofSettings settings [r, s]).2.1 hs
  refine ⟨hs, by cbv, ?_, ?_⟩
  · refine (hrun 0 r rfl).trans ?_
    cbv
  · refine (hrun 1 s rfl).trans ?_
    cbv

end WarningCollector

end ContextFree
