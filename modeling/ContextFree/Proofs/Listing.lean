import ContextFree.Proofs.Lines
import ContextFree.Proofs.TextualForm

/-! The lines of the textual form. Literals are escaped and never break a line, but names are written as
they are: each head has one line of its own just if no name has a line feed. -/
namespace ContextFree

open Text

variable {c : Char} {sep : List Char} {xs : List (List Char)} {a : NonTerminal} {p : Production}
  {ps : List Production} {g : Grammar}

theorem notMem_intercalate_iff (h : c ∉ sep) : c ∉ sep.intercalate xs ↔ ∀ l ∈ xs, c ∉ l := by
  induction xs with
  | nil => simp
  | cons l xs ih =>
    cases xs with
    | nil => simp
    | cons m xs =>
      rw [List.intercalate_cons_cons, List.mem_append, List.mem_append, or_iff_left h, not_or, ih,
        List.forall_mem_cons (a := l)]

/-- A text that is joined from pieces has a line feed between two of them, and those of the pieces. -/
theorem count_intercalate (hx : xs ≠ []) :
    (['\n'].intercalate xs).count '\n' + 1 = xs.length + xs.flatten.count '\n' := by
  induction xs with
  | nil => exact absurd rfl hx
  | cons l xs ih =>
    cases xs with
    | nil => simp [Nat.add_comm]
    | cons m xs =>
      have ih := ih (List.cons_ne_nil m xs)
      rw [List.intercalate_cons_cons, List.flatten_cons, List.count_append, List.count_append,
        List.count_append, List.length_cons, List.count_singleton_self]
      omega

/-- A blank behind each separator is the blank before each piece. -/
theorem cons_intercalate (sep : List Char) (hx : xs ≠ []) (b : Char) :
    b :: (sep ++ [b]).intercalate xs = sep.intercalate (xs.map (b :: ·)) := by
  induction xs with
  | nil => exact absurd rfl hx
  | cons l xs ih =>
    cases xs with
    | nil => simp
    | cons m xs =>
      have ih := ih (List.cons_ne_nil m xs)
      rw [List.map_cons] at ih
      rw [List.map_cons, List.map_cons, List.intercalate_cons_cons, List.intercalate_cons_cons, ← ih]
      simp

/-! ### Line feeds come from names -/

def NonTerminal.IsOneLine (a : NonTerminal) : Prop :=
  '\n' ∉ a.name.toList

instance (a : NonTerminal) : Decidable a.IsOneLine :=
  inferInstanceAs (Decidable (_ ∉ _))

theorem NonTerminal.isOneLine_iff : a.IsOneLine ↔ '\n' ∉ a.render.toList := by
  simp [IsOneLine, toList_render]

theorem Symbol.lineFeed_notMem_render_iff {x : Symbol} :
    '\n' ∉ x.render.toList ↔ ∀ a, x = .nonTerminal a → a.IsOneLine := by
  cases x with
  | terminal t =>
    rw [render, Terminal.toList_render]
    simp [Quoted.notMem_encode (.inl rfl)]
  | nonTerminal a => simp [render, ← NonTerminal.isOneLine_iff]

theorem Production.lineFeed_notMem_renderBody_iff :
    '\n' ∉ p.renderBody.toList ↔ ∀ a ∈ p.nonTerminals, a.IsOneLine := by
  have hsep : '\n' ∉ " ".toList := by decide
  have hshown (a : NonTerminal) : .nonTerminal a ∈ p.shown ↔ a ∈ p.nonTerminals := by
    rw [mem_nonTerminals, shown]
    split
    · next he => simp [List.isEmpty_iff.1 he]
    · rfl
  rw [toList_renderBody, notMem_intercalate_iff hsep, List.forall_mem_map]
  simp only [Symbol.lineFeed_notMem_render_iff, ← hshown]
  constructor
  · intro h a ha
    exact h _ ha a rfl
  · rintro h _ hx a rfl
    exact h a hx

namespace Grammar

def HasOneLineNames (g : Grammar) : Prop :=
  ∀ p ∈ g.productions, ∀ a ∈ p.mentioned, a.IsOneLine

instance (g : Grammar) : Decidable g.HasOneLineNames :=
  inferInstanceAs (Decidable (∀ p ∈ g.productions, ∀ a ∈ p.mentioned, a.IsOneLine))

theorem lineFeed_notMem_renderGroup_iff :
    '\n' ∉ (renderGroup a ps).toList ↔
      a.IsOneLine ∧ ∀ p ∈ ps, ∀ b ∈ p.nonTerminals, b.IsOneLine := by
  have hdefines : '\n' ∉ " ::= ".toList := by decide
  have hsep : '\n' ∉ " | ".toList := by decide
  rw [toList_renderGroup, List.mem_append, List.mem_append, not_or, not_or,
    ← NonTerminal.isOneLine_iff, and_iff_right hdefines, notMem_intercalate_iff hsep,
    List.forall_mem_map]
  simp only [Production.lineFeed_notMem_renderBody_iff]

theorem hasOneLineNames_iff : g.HasOneLineNames ↔
    ∀ x ∈ g.groups, '\n' ∉ (renderGroup x.1 x.2).toList := by
  simp only [lineFeed_notMem_renderGroup_iff]
  constructor
  · rintro h ⟨a, ps⟩ hx
    obtain ⟨⟨p, hp, rfl⟩, rfl⟩ := mem_groups_iff.1 hx
    refine ⟨h p hp _ List.mem_cons_self, fun q hq b hb => ?_⟩
    exact h q (List.mem_filter.1 (mem_ascending.1 hq)).1 b (List.mem_cons_of_mem _ hb)
  · intro h p hp a ha
    obtain ⟨⟨b, ps⟩, hx, hps⟩ := mem_productions_iff_exists_group.1 hp
    obtain ⟨hb, hbodies⟩ := h _ hx
    rcases List.mem_cons.1 ha with rfl | ha
    · obtain ⟨-, rfl⟩ := mem_groups_iff.1 hx
      obtain ⟨-, hhead⟩ := List.mem_filter.1 (mem_ascending.1 hps)
      obtain rfl : p.head = b := of_decide_eq_true hhead
      exact hb
    · exact hbodies p hps a ha

/-! ### The heads with their alternatives -/

/-- Every head in ascending order, with its distinct productions in ascending order. -/
structure IsListing (g : Grammar) (gs : List (NonTerminal × List Production)) : Prop where
  isAscending_heads : IsAscending (gs.map Prod.fst)
  mem_heads : ∀ a, a ∈ gs.map Prod.fst ↔ ∃ p ∈ g.productions, p.head = a
  alternatives : ∀ a ps, (a, ps) ∈ gs →
    IsAscending ps ∧ ∀ p, p ∈ ps ↔ p ∈ g.productions ∧ p.head = a

theorem isListing_groups (g : Grammar) : g.IsListing g.groups where
  isAscending_heads := by
    rw [map_fst_groups]
    exact isAscending_ascending _
  mem_heads a := by rw [map_fst_groups, mem_ascending, List.mem_map]
  alternatives a ps hx := by
    obtain ⟨-, rfl⟩ := mem_groups_iff.1 hx
    refine ⟨isAscending_ascending _, fun p => ?_⟩
    rw [mem_ascending, List.mem_filter, decide_eq_true_eq]

/-- A head, and its alternatives with a blank before each and a bar between two. -/
def lineOf (a : NonTerminal) (alternatives : List Production) : String :=
  a.render ++ " ::=" ++ " |".intercalate (alternatives.map fun p => " " ++ p.renderBody)

theorem renderGroup_eq_lineOf (hps : ps ≠ []) : renderGroup a ps = lineOf a ps := by
  have hbodies : ps.map (fun p => p.renderBody.toList) ≠ [] := mt List.map_eq_nil_iff.1 hps
  have hblank := cons_intercalate " |".toList hbodies ' '
  apply String.toList_inj.1
  rw [toList_renderGroup, lineOf]
  simpa [Function.comp_def] using hblank

theorem map_renderGroup_groups (g : Grammar) :
    g.groups.map (fun (a, ps) => renderGroup a ps) = g.groups.map fun (a, ps) => lineOf a ps := by
  apply List.map_congr_left
  rintro ⟨a, ps⟩ hx
  obtain ⟨⟨p, hp, rfl⟩, rfl⟩ := mem_groups_iff.1 hx
  exact renderGroup_eq_lineOf (List.ne_nil_of_mem (a := p) (by simpa using hp))

section

variable (hg : g.productions ≠ [])
include hg

theorem map_groups_ne_nil {β : Type} (f : NonTerminal × List Production → β) :
    g.groups.map f ≠ [] := by
  obtain ⟨p, hp⟩ := List.exists_mem_of_ne_nil _ hg
  obtain ⟨x, hx, -⟩ := mem_productions_iff_exists_group.1 hp
  exact List.ne_nil_of_mem (List.mem_map_of_mem hx)

theorem splitOn_render (hnames : g.HasOneLineNames) :
    g.render.toList.splitOn '\n' = g.groups.map fun (a, ps) => (renderGroup a ps).toList := by
  have hlines : ∀ l ∈ g.groups.map (fun (a, ps) => (renderGroup a ps).toList), '\n' ∉ l := by
    rw [List.forall_mem_map]
    exact hasOneLineNames_iff.1 hnames
  rw [toList_render]
  exact List.splitOn_intercalate '\n' hlines (map_groups_ne_nil hg _)

/-- There is a piece for each head, and one more for each line feed in a name. -/
theorem length_splitOn_render : (g.render.toList.splitOn '\n').length = g.groups.length +
    (g.groups.flatMap fun (a, ps) => (renderGroup a ps).toList).count '\n' := by
  have hcount := count_intercalate
    (map_groups_ne_nil hg fun (a, ps) => (renderGroup a ps).toList)
  rw [List.length_map, ← List.flatMap_def] at hcount
  rw [length_splitOn, toList_render]
  exact hcount

theorem length_splitOn_render_iff :
    (g.render.toList.splitOn '\n').length = g.groups.length ↔ g.HasOneLineNames := by
  rw [length_splitOn_render hg, hasOneLineNames_iff, Nat.add_eq_left, List.count_eq_zero]
  simp only [List.mem_flatMap, not_exists, not_and]

end

/-- The textual form has a line for each head, with the alternatives of that head in it. Read as lines it
has just these if no name has a line feed, whatever the literals are; a line feed in a name always makes
for more. -/
theorem exists_listing (g : Grammar) : ∃ gs, g.IsListing gs ∧
    g.render = "\n".intercalate (gs.map fun (a, ps) => lineOf a ps) ∧
    (g.productions = [] → g.render = "") ∧
    (g.productions ≠ [] →
      ((g.render.toList.splitOn '\n').length = gs.length ↔ g.HasOneLineNames) ∧
      (g.HasOneLineNames →
        g.render.toList.splitOn '\n' = gs.map fun (a, ps) => (lineOf a ps).toList)) := by
  refine ⟨g.groups, isListing_groups g, ?_, fun he => ?_, fun hg => ⟨?_, fun hnames => ?_⟩⟩
  · rw [render, map_renderGroup_groups]
  · rw [render, groups, he]
    rfl
  · exact length_splitOn_render_iff hg
  · have hlines := congrArg (List.map String.toList) (map_renderGroup_groups g)
    rw [List.map_map, List.map_map] at hlines
    exact (splitOn_render hg hnames).trans hlines

/-- Line feeds in two literals, and a production that is there twice: two heads, two lines. -/
theorem exists_listing_with_escapes :
    let p : Production := ⟨⟨"S"⟩, [.terminal ⟨"\n"⟩, .nonTerminal ⟨"A"⟩]⟩
    let q : Production := ⟨⟨"A"⟩, [.terminal ⟨"\"\n"⟩]⟩
    let g := ofProductions [p, q, ⟨⟨"S"⟩, []⟩, p] ⟨"S"⟩
    g.productions ≠ [] ∧ g.HasOneLineNames ∧ (g.render.toList.splitOn '\n').length = 2 := by
  intro p q g
  have hg : g.productions ≠ [] := by decide
  have hnames : g.HasOneLineNames := by decide
  obtain ⟨gs, hlisting, -, -, hlines⟩ := exists_listing g
  have hheads : gs.map Prod.fst = ascending (g.productions.map Production.head) := by
    rw [eq_ascending_iff]
    refine ⟨hlisting.isAscending_heads, fun a => ?_⟩
    rw [hlisting.mem_heads, List.mem_map]
  have hcount : gs.length = 2 := by
    rw [← List.length_map Prod.fst, hheads]
    decide
  exact ⟨hg, hnames, ((hlines hg).1.2 hnames).trans hcount⟩

/-- A line feed in the name of the only head breaks the line. -/
theorem not_forall_line_for_each_head :
    ¬ ∀ g : Grammar, g.productions ≠ [] → ∀ gs, g.IsListing gs →
      (g.render.toList.splitOn '\n').length = gs.length := by
  intro h
  let g := ofProductions [⟨⟨"A\nB"⟩, [.terminal ⟨"x"⟩]⟩] ⟨"A\nB"⟩
  have hlength := h g (by decide) g.groups (isListing_groups g)
  exact absurd hlength (by decide)

end Grammar

end ContextFree
