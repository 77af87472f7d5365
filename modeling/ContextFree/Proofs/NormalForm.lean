import ContextFree.Grammar.NormalForm
import ContextFree.Proofs.Derivability
import ContextFree.Proofs.Numbering

/-! Derivation in Chomsky normal form. The leaves and nodes of parse trees are counted by the bodies. Main
statements: in normal form nothing derives the empty string unless the start has an empty body; and
where no body is empty, a parse tree with `n` leaves has `n` nodes above one terminal and `n - 1` above
two non-terminals. -/
namespace ContextFree

variable {g : Grammar} {a start : NonTerminal} {p : Production} {ps : List Production}
  {s : List Symbol} {i : ProductionId}

namespace Production

theorem counts_of_isLexical (h : p.isLexical = true) :
    p.terminalCount = 1 ∧ p.nonTerminalCount = 0 := by
  obtain ⟨t, hb⟩ := isLexical_iff_body.1 h
  unfold terminalCount nonTerminalCount
  rw [hb]
  exact ⟨rfl, rfl⟩

/-- Where every body is one terminal or two non-terminals, the symbols of all bodies are known from
how many bodies of each kind there are. -/
theorem countP_bodies (h : ∀ p ∈ ps, p.isLexical = true ∨ p.isBinary = true) :
    (ps.flatMap body).countP Symbol.isTerminal = ps.countP isLexical ∧
      (ps.flatMap body).countP Symbol.isNonTerminal = 2 * ps.countP isBinary ∧
      ps.length = ps.countP isLexical + ps.countP isBinary := by
  induction ps with
  | nil => exact ⟨rfl, rfl, rfl⟩
  | cons p ps ih =>
    obtain ⟨hp, hps⟩ := List.forall_mem_cons.1 h
    obtain ⟨hterminals, hnonTerminals, hlength⟩ := ih hps
    rw [List.flatMap_cons, List.countP_append, List.countP_append, ← terminalCount,
      ← nonTerminalCount, List.countP_cons, List.countP_cons, List.length_cons]
    rcases hp with hp | hp
    · obtain ⟨ht, hn⟩ := counts_of_isLexical hp
      have hb : ¬ p.isBinary = true := by
        rw [isBinary_iff]
        omega
      rw [if_pos hp, if_neg hb]
      omega
    · obtain ⟨ht, hn⟩ := isBinary_iff.1 hp
      have hl : ¬ p.isLexical = true := by
        intro hl
        have := counts_of_isLexical hl
        omega
      rw [if_pos hp, if_neg hl]
      omega

end Production

namespace Forest

/-- Each terminal of the form or of a body that is used is a leaf. -/
theorem length_yield (f : Forest g s) :
    f.yield.length = (s ++ f.used.flatMap Production.body).countP Symbol.isTerminal := by
  rw [List.countP_append]
  induction f with
  | nil => rfl
  | leaf t trees ih =>
    have hleaf : (Symbol.terminal t).isTerminal = true := rfl
    rw [yield, used, List.length_cons, ih, List.countP_cons_of_pos hleaf]
    omega
  | node p mem children trees hc ht =>
    have hroot : ¬ (Symbol.nonTerminal p.head).isTerminal = true := Bool.false_ne_true
    rw [yield, used, List.length_append, hc, ht, List.countP_cons_of_neg hroot, List.cons_append,
      List.flatMap_cons, List.flatMap_append, List.countP_append, List.countP_append]
    omega

/-- Each non-terminal of the form or of a body that is used is a node. -/
theorem length_used (f : Forest g s) :
    f.used.length = (s ++ f.used.flatMap Production.body).countP Symbol.isNonTerminal := by
  rw [List.countP_append]
  induction f with
  | nil => rfl
  | leaf t trees ih =>
    have hleaf : ¬ (Symbol.terminal t).isNonTerminal = true := Bool.false_ne_true
    rw [used, ih, List.countP_cons_of_neg hleaf]
  | node p mem children trees hc ht =>
    have hroot : (Symbol.nonTerminal p.head).isNonTerminal = true := rfl
    rw [used, List.cons_append, List.length_cons, List.length_append, hc, ht,
      List.countP_cons_of_pos hroot, List.flatMap_cons, List.flatMap_append, List.countP_append,
      List.countP_append]
    omega

end Forest

namespace Grammar

/-- No body of one terminal or of two non-terminals is null before some other one is. -/
theorem exists_empty_of_mem_nullable (h : g.isNormal = true) (ha : a ∈ g.nullable) :
    ∃ p ∈ g.productions, p.head = g.start ∧ p.isEmpty = true := by
  refine Saturation.of_mem_closure (P := fun _ => ∃ p ∈ g.productions, p.head = g.start ∧
    p.isEmpty = true) (fun p hp hb => ?_) ha
  rcases Production.isNormal_iff.1 (isNormal_iff.1 h p hp) with hl | hbinary | ⟨hempty, hstart⟩
  · obtain ⟨t, ht⟩ := Production.isLexical_iff_body.1 hl
    have hterminal := hb (.terminal t) (by simp [ht])
    exact absurd hterminal Bool.false_ne_true
  · obtain ⟨b, c, hc⟩ := Production.isBinary_iff_body.1 hbinary
    exact hb (.nonTerminal b) (by simp [hc])
  · exact ⟨p, hp, hstart, hempty⟩

theorem head_mem_nullable (hp : p ∈ g.productions) (he : p.isEmpty = true) :
    p.head ∈ g.nullable := by
  apply Saturation.closed_closure false g.productions p hp
  rw [Production.isEmpty_iff_body.1 he]
  simp

/-- The start of a grammar in normal form is null only by a production of its own; without one
nothing is. -/
theorem generatesEmpty_of_isNormal (h : g.isNormal = true) :
    (g.generatesEmpty = true ↔
      ∃ p ∈ g.productions, p.head = g.start ∧ p.isEmpty = true) ∧
    ((¬ ∃ p ∈ g.productions, p.head = g.start ∧ p.isEmpty = true) →
      ∀ a, g.isNullable a = false) := by
  rw [generatesEmpty_iff]
  refine ⟨⟨exists_empty_of_mem_nullable h, ?_⟩, fun hnone a => ?_⟩
  · rintro ⟨p, hp, hstart, hempty⟩
    rw [← hstart]
    exact head_mem_nullable hp hempty
  · rw [← Bool.not_eq_true, isNullable_iff]
    intro ha
    exact hnone (exists_empty_of_mem_nullable h ha)

/-- With an empty body for the start another non-terminal is null too; an empty literal does not
make any null. -/
theorem generatesEmpty_of_isNormal_at_start :
    let s : NonTerminal := ⟨"S"⟩
    let a : NonTerminal := ⟨"A"⟩
    let g := ofProductions [⟨a, [.nonTerminal s, .nonTerminal s]⟩, ⟨s, []⟩] s
    let h := ofProductions [⟨a, [.nonTerminal s, .nonTerminal s]⟩, ⟨s, [.terminal ⟨""⟩]⟩] s
    g.isNormal = true ∧ g.generatesEmpty = true ∧ g.isNullable a = true ∧
      h.isNormal = true ∧ (¬ ∃ p ∈ h.productions, p.head = h.start ∧ p.isEmpty = true) ∧
      h.isNullable a = false ∧ h.isNullable s = false := by
  intro s a g h
  have hg : g.isNormal = true := by decide
  have hh : h.isNormal = true := by decide
  have hempty : ∃ p ∈ g.productions, p.head = g.start ∧ p.isEmpty = true := by decide
  have hnone : ¬ ∃ p ∈ h.productions, p.head = h.start ∧ p.isEmpty = true := by decide
  have hnull := (generatesEmpty_of_isNormal hh).2 hnone
  exact ⟨hg, (generatesEmpty_of_isNormal hg).1.2 hempty, by cbv, hh, hnone, hnull a, hnull s⟩

section

variable (h : g.isNormal = true) (he : ∀ p ∈ g.productions, p.isEmpty = false)
include h he

theorem isLexical_or_isBinary (hp : p ∈ g.productions) :
    p.isLexical = true ∨ p.isBinary = true := by
  rcases Production.isNormal_iff.1 (isNormal_iff.1 h p hp) with hl | hb | ⟨hempty, -⟩
  · exact .inl hl
  · exact .inr hb
  · exact Bool.noConfusion ((he p hp).symm.trans hempty)

/-- The nodes are counted twice: by their kinds, and as the root and the non-terminals below it. -/
theorem counts_of_parseTree (t : ParseTree g a) :
    t.used.countP Production.isLexical = t.yield.length ∧
      t.used.countP Production.isBinary + 1 = t.yield.length ∧
      t.used.length = t.used.countP Production.isLexical + t.used.countP Production.isBinary := by
  have hused : ∀ p ∈ t.used, p.isLexical = true ∨ p.isBinary = true := by
    intro p hp
    exact isLexical_or_isBinary h he (Forest.mem_productions_of_mem_used hp)
  obtain ⟨hterminals, hnonTerminals, hlength⟩ := Production.countP_bodies hused
  have hleaves := t.length_yield
  have hnodes := t.length_used
  have hroot : [Symbol.nonTerminal a].countP Symbol.isTerminal = 0 := rfl
  have hroot' : [Symbol.nonTerminal a].countP Symbol.isNonTerminal = 1 := rfl
  rw [List.countP_append] at hleaves hnodes
  omega

end

/-- What a grammar in normal form without empty bodies promises of its parse trees, and which
productions keep a grammar out of normal form. -/
theorem shape_of_isNormal (g : Grammar) :
    (g.isNormal = true → (∀ p ∈ g.productions, p.isEmpty = false) →
      ∀ (a : NonTerminal) (t : ParseTree g a),
        1 ≤ t.yield.length ∧ t.used.length = 2 * t.yield.length - 1 ∧
        t.used.countP Production.isLexical = t.yield.length ∧
        t.used.countP Production.isBinary = t.yield.length - 1) ∧
    (g.isNormal = true ↔ g.abnormalIds = []) ∧
    g.abnormalIds.Pairwise (fun i j => i.toNat < j.toNat) ∧
    ∀ i, i ∈ g.abnormalIds ↔ ∃ p, g.production? i = some p ∧
      ¬ (p.isLexical = true ∨ (p.terminalCount = 0 ∧ p.nonTerminalCount = 2) ∨
        p.isEmpty = true ∧ p.head = g.start) := by
  refine ⟨fun h he a t => ?_, isNormal_iff_abnormalIds_eq_nil, g.pairwise_abnormalIds, fun i => ?_⟩
  · obtain ⟨hlexical, hbinary, hlength⟩ := counts_of_parseTree h he t
    omega
  · simp only [mem_abnormalIds_iff, ← Production.isBinary_iff, ← Production.isNormal_iff,
      Bool.not_eq_true]

/-- Three leaves under a start that stands for two of itself: three nodes above one letter, and two
that join them. -/
theorem shape_of_isNormal_three :
    let s : NonTerminal := ⟨"S"⟩
    let join : Production := ⟨s, [.nonTerminal s, .nonTerminal s]⟩
    let letter : Production := ⟨s, [.terminal ⟨"a"⟩]⟩
    let g := ofProductions [join, letter] s
    g.isNormal = true ∧ (∀ p ∈ g.productions, p.isEmpty = false) ∧
      ∃ t : ParseTree g s, t.yield = [⟨"a"⟩, ⟨"a"⟩, ⟨"a"⟩] ∧ t.used.length = 5 ∧
        t.used.countP Production.isLexical = 3 ∧ t.used.countP Production.isBinary = 2 := by
  intro s join letter g
  have hnormal : g.isNormal = true := by decide
  have hempty : ∀ p ∈ g.productions, p.isEmpty = false := by decide
  let one : ParseTree g s := .node letter (by decide) (.leaf ⟨"a"⟩ .nil) .nil
  let two : ParseTree g s := .node join (by decide) (one.append one) .nil
  let three : ParseTree g s := .node join (by decide) (two.append one) .nil
  have hyield : three.yield = [⟨"a"⟩, ⟨"a"⟩, ⟨"a"⟩] := rfl
  obtain ⟨-, hlength, hlexical, hbinary⟩ := (shape_of_isNormal g).1 hnormal hempty s three
  rw [hyield] at hlength hlexical hbinary
  exact ⟨hnormal, hempty, three, hyield, hlength, hlexical, hbinary⟩

end Grammar

end ContextFree
