import ContextFree.Derivation

/-! Expansion and parse trees tell one story: a form derives a string of terminals exactly when some
parse trees over the form have those leaves. -/
namespace ContextFree

variable {g h : Grammar} {s t : List Symbol}

theorem Expands.mono (hs : g.productions ⊆ h.productions) (he : Expands g s t) : Expands h s t := by
  obtain ⟨hp, before, after⟩ := he
  exact .replace (hs hp) before after

theorem Derives.mono (hs : g.productions ⊆ h.productions) (hd : Derives g s t) : Derives h s t := by
  induction hd with
  | refl => exact .refl _
  | tail _ he ih => exact ih.tail (he.mono hs)

theorem Expands.context (h : Expands g s t) (before after : List Symbol) :
    Expands g (before ++ s ++ after) (before ++ t ++ after) := by
  obtain ⟨hp, l, r⟩ := h
  simpa using Expands.replace hp (before ++ l) (r ++ after)

theorem Derives.context (h : Derives g s t) (before after : List Symbol) :
    Derives g (before ++ s ++ after) (before ++ t ++ after) := by
  induction h with
  | refl => exact .refl _
  | tail _ he ih => exact ih.tail (he.context before after)

theorem Derives.append {s' t' : List Symbol} (h : Derives g s t) (h' : Derives g s' t') :
    Derives g (s ++ s') (t ++ t') := by
  have hl : Derives g (s ++ s') (t ++ s') := by simpa using h.context [] s'
  have hr : Derives g (t ++ s') (t ++ t') := by simpa using h'.context t []
  exact hl.trans hr

theorem Derives.body {p : Production} (hp : p ∈ g.productions) :
    Derives g [.nonTerminal p.head] p.body := by
  have he : Expands g [.nonTerminal p.head] p.body := by simpa using Expands.replace hp [] []
  exact (Derives.refl _).tail he

namespace Forest

theorem exists_append {s r : List Symbol} (f : Forest g (s ++ r)) :
    ∃ (f₁ : Forest g s) (f₂ : Forest g r), f₁.append f₂ = f := by
  induction s with
  | nil => exact ⟨.nil, f, rfl⟩
  | cons x s ih =>
    cases f with
    | leaf t trees =>
      obtain ⟨f₁, f₂, rfl⟩ := ih trees
      exact ⟨.leaf t f₁, f₂, rfl⟩
    | node p mem children trees =>
      obtain ⟨f₁, f₂, rfl⟩ := ih trees
      exact ⟨.node p mem children f₁, f₂, rfl⟩

theorem derives_yield (f : Forest g s) : Derives g s (f.yield.map .terminal) := by
  induction f with
  | nil => exact .refl _
  | leaf t trees ih =>
    have hl : Derives g [.terminal t] [.terminal t] := .refl _
    simpa [yield] using hl.append ih
  | node p mem children trees hc ht =>
    have hb := (Derives.body mem).trans hc
    simpa [yield] using hb.append ht

/-- An expansion is undone by a node above the trees of the body. -/
theorem exists_of_expands (h : Expands g s t) (f : Forest g t) :
    ∃ f' : Forest g s, f'.yield = f.yield ∧ f.used ⊆ f'.used := by
  obtain ⟨hp, before, after⟩ := h
  obtain ⟨fb, fr, rfl⟩ := f.exists_append
  obtain ⟨fc, fa, rfl⟩ := fr.exists_append
  refine ⟨fb.append (.node _ hp fc fa), by simp [yield], fun q hq => ?_⟩
  simp only [used_append, used, List.mem_append, List.mem_cons] at hq ⊢
  exact hq.imp_right fun hq => hq.imp_left .inr

theorem exists_of_derives (h : Derives g s t) (f : Forest g t) :
    ∃ f' : Forest g s, f'.yield = f.yield ∧ f.used ⊆ f'.used := by
  induction h with
  | refl => exact ⟨f, rfl, List.Subset.refl _⟩
  | tail _ he ih =>
    obtain ⟨f₁, h₁, hu₁⟩ := exists_of_expands he f
    obtain ⟨f₂, h₂, hu₂⟩ := ih f₁
    exact ⟨f₂, h₂.trans h₁, List.Subset.trans hu₁ hu₂⟩

def ofWord (g : Grammar) : (w : List Terminal) → Forest g (w.map .terminal)
  | [] => .nil
  | t :: w => .leaf t (ofWord g w)

@[simp]
theorem yield_ofWord (w : List Terminal) : (ofWord g w).yield = w := by
  induction w with
  | nil => rfl
  | cons t w ih => exact congrArg (t :: ·) ih

theorem mem_yield_of_mem {t : Terminal} (f : Forest g s) (h : Symbol.terminal t ∈ s) :
    t ∈ f.yield := by
  induction f with
  | nil => simp at h
  | leaf t' trees ih =>
    rcases List.mem_cons.1 h with he | h
    · cases he
      exact List.mem_cons_self
    · exact List.mem_cons_of_mem _ (ih h)
  | node p mem children trees _ ht =>
    rcases List.mem_cons.1 h with he | h
    · cases he
    · exact List.mem_append_right _ (ht h)

end Forest

theorem derives_terminals_iff {w : List Terminal} :
    Derives g s (w.map .terminal) ↔ ∃ f : Forest g s, f.yield = w := by
  constructor
  · intro h
    obtain ⟨f, hf, -⟩ := Forest.exists_of_derives h (Forest.ofWord g w)
    exact ⟨f, hf.trans (Forest.yield_ofWord w)⟩
  · intro h
    obtain ⟨f, rfl⟩ := h
    exact f.derives_yield

theorem derives_nil_iff : Derives g s [] ↔ ∃ f : Forest g s, f.yield = [] :=
  derives_terminals_iff (w := [])

/-- Terminals stay: a form with a terminal in it, of whatever value, derives no empty form. -/
theorem not_derives_nil_of_terminal_mem {t : Terminal} (h : Symbol.terminal t ∈ s) :
    ¬ Derives g s [] := by
  intro hd
  obtain ⟨f, hf⟩ := derives_nil_iff.1 hd
  have ht := f.mem_yield_of_mem h
  rw [hf] at ht
  simp at ht

end ContextFree
