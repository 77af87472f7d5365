import ContextFree.Proofs.NormalForm
import ContextFree.Proofs.Reuse

/-! More productions for one start. What they make reachable, productive or null stays so when some are
added, and what is reported as lacking a quality was so before. -/
namespace ContextFree

variable {g h : Grammar} {a b : NonTerminal} {q : Quality}

section

variable (hs : g.start = h.start) (hp : g.productions ⊆ h.productions)
include hs hp

/-- Every derivation of the smaller grammar is one of the larger. -/
theorem Quality.Holds.mono (hq : q.Holds g a) : q.Holds h a := by
  cases q with
  | reachable =>
    obtain ⟨form, hd, hm⟩ := hq
    rw [hs] at hd
    exact ⟨form, hd.mono hp, hm⟩
  | productive =>
    obtain ⟨w, hd⟩ := Grammar.nonempty_parseTree_iff.1 hq
    exact Grammar.nonempty_parseTree_iff.2 ⟨w, hd.mono hp⟩
  | nullable => exact Derives.mono hp hq

namespace Grammar

theorem having_subset : g.having q ⊆ h.having q := by
  intro a ha
  rw [mem_having_iff] at ha ⊢
  exact ha.mono hs hp

theorem nonTerminals_subset : g.nonTerminals ⊆ h.nonTerminals := by
  intro a ha
  rw [mem_nonTerminals] at ha ⊢
  rcases ha with rfl | ⟨p, hm, hpa⟩
  · exact .inl hs
  · exact .inr ⟨p, hp hm, hpa⟩

/-- The two grammars may have different numbers for one non-terminal. -/
theorem exists_holds? {n : NonTerminalId} (ha : g.nonTerminal? n = some a)
    (hn : (Survey.of q g).holds? n = some true) :
    ∃ m, h.nonTerminal? m = some a ∧ (Survey.of q h).holds? m = some true := by
  obtain ⟨b, hb, hq⟩ := Survey.holds?_eq_some_true_iff.1 hn
  obtain rfl : a = b := Option.some.inj (ha.symm.trans hb)
  obtain ⟨m, -, hm⟩ := exists_nonTerminal?_eq (nonTerminals_subset hs hp (List.mem_of_getElem? ha))
  exact ⟨m, hm, Survey.holds?_eq_some_true_iff.2 ⟨a, hm, having_subset hs hp hq⟩⟩

theorem mem_lacking_of_mem_lacking (hd : ∃ p ∈ g.productions, p.head = a)
    (ha : a ∈ h.lacking q) : a ∈ g.lacking q := by
  rw [mem_lacking_iff] at ha ⊢
  exact ⟨hd, fun hq => ha.2 (having_subset hs hp hq)⟩

theorem isNormal_of_isNormal (hn : h.isNormal = true) : g.isNormal = true := by
  rw [isNormal_iff] at hn ⊢
  intro p hm
  rw [hs]
  exact hn p (hp hm)

end Grammar

end

namespace Grammar

/-- The answers of `g` that hold in `h` too. The normal form, and what is reported as lacking a quality,
go the other way. -/
structure GrowsInto (g h : Grammar) : Prop where
  holds : ∀ q n a, g.nonTerminal? n = some a → (Survey.of q g).holds? n = some true →
    ∃ m, h.nonTerminal? m = some a ∧ (Survey.of q h).holds? m = some true
  isNullable : ∀ a, g.isNullable a = true → h.isNullable a = true
  generatesEmpty : g.generatesEmpty = true → h.generatesEmpty = true
  leadsTo : ∀ a b, g.leadsTo a b = true → h.leadsTo a b = true
  mentions : ∀ a, g.mentions a = true → h.mentions a = true
  isNormal : h.isNormal = true → g.isNormal = true
  unreachable : ∀ p ∈ g.productions, p.head ∈ h.unreachable → p.head ∈ g.unreachable
  unterminated : ∀ p ∈ g.productions, p.head ∈ h.unterminated → p.head ∈ g.unterminated

theorem growsInto_of_subset (hs : g.start = h.start) (hp : g.productions ⊆ h.productions) :
    g.GrowsInto h where
  holds q n a := exists_holds? hs hp
  isNullable a ha := by
    rw [isNullable_iff] at ha ⊢
    exact having_subset (q := .nullable) hs hp ha
  generatesEmpty he := by
    rw [generatesEmpty_iff] at he ⊢
    rw [← hs]
    exact having_subset (q := .nullable) hs hp he
  leadsTo a b hab := by
    rw [leadsTo_iff] at hab ⊢
    exact hab.mono hp
  mentions a ha := by
    rw [mentions_iff] at ha ⊢
    obtain ⟨p, hm, hpa⟩ := ha
    exact ⟨p, hp hm, hpa⟩
  isNormal := isNormal_of_isNormal hs hp
  unreachable p hm := mem_lacking_of_mem_lacking hs hp ⟨p, hm, rfl⟩
  unterminated p hm := mem_lacking_of_mem_lacking hs hp ⟨p, hm, rfl⟩

/-- The larger grammar has other numbers for `X` and `A`, and a production that ends what the smaller
one leaves open: only there is the start null. -/
theorem growsInto_of_ended :
    let p : Production := ⟨⟨"S"⟩, [.nonTerminal ⟨"A"⟩]⟩
    let r : Production := ⟨⟨"X"⟩, [.nonTerminal ⟨"S"⟩]⟩
    let g := ofProductions [p, r] ⟨"S"⟩
    let h := ofProductions [r, ⟨⟨"A"⟩, []⟩, p, p] ⟨"S"⟩
    g.nonTerminal? ⟨1⟩ ≠ h.nonTerminal? ⟨1⟩ ∧
      (∃ m, h.nonTerminal? m = some ⟨"A"⟩ ∧ (Survey.of .reachable h).holds? m = some true) ∧
      h.leadsTo ⟨"X"⟩ ⟨"A"⟩ = true ∧ ⟨"X"⟩ ∈ g.unreachable ∧
      g.generatesEmpty = false ∧ h.generatesEmpty = true := by
  intro p r g h
  have hp : g.productions ⊆ h.productions := by decide
  have hgrows : g.GrowsInto h := growsInto_of_subset rfl hp
  have hreach : (Survey.of .reachable g).holds? ⟨1⟩ = some true := by cbv
  have hleads : g.leadsTo ⟨"X"⟩ ⟨"A"⟩ = true := by cbv
  have hunreachable : r.head ∈ h.unreachable := by
    rw [show h.unreachable = [⟨"X"⟩] by cbv]
    exact List.mem_cons_self
  exact ⟨by decide, hgrows.holds .reachable ⟨1⟩ ⟨"A"⟩ rfl hreach, hgrows.leadsTo _ _ hleads,
    hgrows.unreachable r (by decide) hunreachable, by cbv, by cbv⟩

end Grammar

end ContextFree
