import ContextFree.Ascending
import ContextFree.Grammar.Render
import ContextFree.Proofs.Quoting
import ContextFree.Proofs.Unambiguity

/-! The textual form shows the set of productions and nothing else. Each layer can be told apart from
what may follow it: symbols by themselves, then bodies, alternatives and lines by their separators.
Literals are escaped, so they may hold any text; a name must not hold the bracket that closes it, and
a body must not be a lone empty literal. -/
namespace ContextFree

open Text

variable {a : NonTerminal} {p q : Production} {g h : Grammar}

def NonTerminal.IsPlain (a : NonTerminal) : Prop :=
  '>' ∉ a.name.toList

instance (a : NonTerminal) : Decidable a.IsPlain :=
  inferInstanceAs (Decidable (_ ∉ _))

theorem NonTerminal.toList_render (a : NonTerminal) :
    a.render.toList = '<' :: (a.name.toList ++ ['>']) := by
  simp [render]

theorem NonTerminal.unambiguous_render :
    Unambiguous IsPlain (fun _ => True) fun a => a.render.toList := by
  intro a b r s ha hb _ _ he
  simp only [toList_render, List.cons_append, List.append_assoc, List.nil_append,
    List.cons.injEq, true_and] at he
  obtain ⟨hn, hr⟩ := append_cons_inj ha hb he
  cases a
  cases b
  exact ⟨congrArg _ (String.toList_inj.1 hn), hr⟩

theorem Terminal.toList_render (t : Terminal) : t.render.toList = Quoted.encode t.value.toList :=
  toList_quote t.value

theorem Terminal.unambiguous_render :
    Unambiguous (fun _ => True) (fun _ => True) fun t : Terminal => t.render.toList := by
  intro t u r s _ _ _ _ he
  simp only [toList_render] at he
  obtain ⟨hv, hr⟩ := Quoted.encode_append_inj he
  cases t
  cases u
  exact ⟨congrArg _ (String.toList_inj.1 hv), hr⟩

theorem Terminal.toList_render_append_ne (t : Terminal) (a : NonTerminal) (r s : List Char) :
    t.render.toList ++ r ≠ a.render.toList ++ s := by
  rw [toList_render, NonTerminal.toList_render, Quoted.encode]
  rcases Quoted.delimiter_eq t.value.toList with hd | hd <;> simp [hd]

namespace Symbol

def IsPlain : Symbol → Prop
  | .terminal _ => True
  | .nonTerminal a => a.IsPlain

instance : (x : Symbol) → Decidable x.IsPlain
  | .terminal _ => inferInstanceAs (Decidable True)
  | .nonTerminal a => inferInstanceAs (Decidable a.IsPlain)

theorem toList_render_append_ne_bar (x : Symbol) (r s : List Char) :
    x.render.toList ++ r ≠ '|' :: s := by
  cases x with
  | terminal t =>
    rw [render, Terminal.toList_render, Quoted.encode]
    rcases Quoted.delimiter_eq t.value.toList with hd | hd <;> simp [hd]
  | nonTerminal a => simp [render, NonTerminal.toList_render]

theorem unambiguous_render :
    Unambiguous IsPlain (fun _ => True) fun x : Symbol => x.render.toList := by
  intro x y r s hx hy hr hs he
  cases x with
  | terminal t =>
    cases y with
    | terminal u =>
      obtain ⟨rfl, rfl⟩ := Terminal.unambiguous_render trivial trivial hr hs he
      exact ⟨rfl, rfl⟩
    | nonTerminal b => exact absurd he (t.toList_render_append_ne b r s)
  | nonTerminal a =>
    cases y with
    | terminal u => exact absurd he.symm (u.toList_render_append_ne a s r)
    | nonTerminal b =>
      obtain ⟨rfl, rfl⟩ := NonTerminal.unambiguous_render hx hy hr hs he
      exact ⟨rfl, rfl⟩

end Symbol

/-- What may come after a line. -/
def EndsLine (r : List Char) : Prop :=
  r = [] ∨ ∃ t, r = '\n' :: t

/-- What may come after a body. -/
def EndsBody (r : List Char) : Prop :=
  EndsLine r ∨ ∃ t, r = " | ".toList ++ t

theorem separates_symbols :
    Separates Symbol.IsPlain (fun _ => True) EndsBody (fun x => x.render.toList) " ".toList where
  follow_sep _ := trivial
  follow_end _ _ := trivial
  end_ne r hr x t _ he := by
    subst he
    rcases hr with (hr | ⟨s, hr⟩) | ⟨s, hr⟩
    · simp at hr
    · simp at hr
    -- Both separators begin with a blank, but no symbol begins with the bar of the longer one.
    · exact x.toList_render_append_ne_bar t (' ' :: s) (by simpa using hr)

namespace Production

/-- No name closes early, and the body does not look empty unless it is. -/
structure IsPlain (p : Production) : Prop where
  head : p.head.IsPlain
  body : ∀ x ∈ p.body, x.IsPlain
  body_ne : p.body ≠ [.terminal ⟨""⟩]

instance (p : Production) : Decidable p.IsPlain :=
  decidable_of_iff (p.head.IsPlain ∧ (∀ x ∈ p.body, x.IsPlain) ∧ p.body ≠ [.terminal ⟨""⟩])
    ⟨fun hp => ⟨hp.1, hp.2.1, hp.2.2⟩, fun hp => ⟨hp.head, hp.body, hp.body_ne⟩⟩

/-- The symbols that the text of the body is made of. -/
def shown (p : Production) : List Symbol :=
  if p.body.isEmpty then [.terminal ⟨""⟩] else p.body

theorem toList_renderBody (p : Production) :
    p.renderBody.toList = " ".toList.intercalate (p.shown.map fun x => x.render.toList) := by
  unfold renderBody shown
  split
  · simp [Symbol.render, Terminal.render]
  · simp [List.map_map, Function.comp_def]

theorem shown_ne_nil (p : Production) : p.shown ≠ [] := by
  unfold shown
  split
  · exact List.cons_ne_nil _ _
  · next he => simpa using he

theorem IsPlain.of_mem_shown (hp : p.IsPlain) : ∀ x ∈ p.shown, x.IsPlain := by
  unfold shown
  split
  · intro x hx
    rw [List.mem_singleton] at hx
    subst hx
    trivial
  · exact hp.body

theorem IsPlain.body_eq_of_shown_eq (hp : p.IsPlain) (hq : q.IsPlain) (he : p.shown = q.shown) :
    p.body = q.body := by
  unfold shown at he
  split at he <;> split at he
  · simp_all
  · exact absurd he.symm hq.body_ne
  · exact absurd he hp.body_ne
  · exact he

theorem unambiguous_renderBody (a : NonTerminal) :
    Unambiguous (fun p : Production => p.IsPlain ∧ p.head = a) EndsBody
      fun p => p.renderBody.toList := by
  intro p q r s hp hq hr hs he
  simp only [toList_renderBody] at he
  obtain ⟨hb, rfl⟩ := Symbol.unambiguous_render.intercalate separates_symbols
    ⟨p.shown_ne_nil, hp.1.of_mem_shown⟩ ⟨q.shown_ne_nil, hq.1.of_mem_shown⟩ hr hs he
  have hb := hp.1.body_eq_of_shown_eq hq.1 hb
  cases p
  cases q
  cases hp.2
  cases hq.2
  exact ⟨congrArg _ hb, rfl⟩

end Production

theorem separates_bodies (a : NonTerminal) :
    Separates (fun p : Production => p.IsPlain ∧ p.head = a) EndsBody EndsLine
      (fun p => p.renderBody.toList) " | ".toList where
  follow_sep t := .inr ⟨t, rfl⟩
  follow_end _ := .inl
  end_ne r hr p t _ he := by
    subst he
    rcases hr with hr | ⟨s, hr⟩ <;> simp at hr

namespace Grammar

/-- A line of the text: a head, and at least one alternative of it. -/
def IsPlainGroup (x : NonTerminal × List Production) : Prop :=
  x.1.IsPlain ∧ x.2 ≠ [] ∧ ∀ p ∈ x.2, p.IsPlain ∧ p.head = x.1

theorem unambiguous_renderGroup :
    Unambiguous IsPlainGroup EndsLine fun (a, ps) => (renderGroup a ps).toList := by
  intro x y r s hx hy hr hs he
  obtain ⟨a, ps⟩ := x
  obtain ⟨b, qs⟩ := y
  simp only [toList_renderGroup, List.append_assoc] at he
  obtain ⟨rfl, hps⟩ := NonTerminal.unambiguous_render hx.1 hy.1 trivial trivial he
  obtain ⟨rfl, rfl⟩ := (Production.unambiguous_renderBody a).intercalate (separates_bodies a)
    hx.2 hy.2 hr hs (List.append_cancel_left hps)
  exact ⟨rfl, rfl⟩

theorem separates_groups :
    Separates IsPlainGroup EndsLine (· = []) (fun (a, ps) => (renderGroup a ps).toList)
      "\n".toList where
  follow_sep t := .inr ⟨t, rfl⟩
  follow_end _ := .inl
  end_ne r hr x t _ he := by simp [hr] at he

theorem isPlainGroup_of_mem_groups (hg : ∀ p ∈ g.productions, p.IsPlain) :
    ∀ x ∈ g.groups, IsPlainGroup x := by
  rintro ⟨a, ps⟩ hx
  obtain ⟨⟨p, hp, rfl⟩, rfl⟩ := mem_groups_iff.1 hx
  refine ⟨(hg p hp).head, ?_, fun q hq => ?_⟩
  · exact List.ne_nil_of_mem (a := p) (by simpa using hp)
  · obtain ⟨hq, he⟩ := List.mem_filter.1 (mem_ascending.1 hq)
    exact ⟨hg q hq, by simpa using he⟩

theorem render_eq_iff_productions (hg : ∀ p ∈ g.productions, p.IsPlain)
    (hh : ∀ p ∈ h.productions, p.IsPlain) :
    g.render = h.render ↔ ∀ p, p ∈ g.productions ↔ p ∈ h.productions := by
  rw [← groups_eq_iff]
  constructor
  · intro he
    have hl := congrArg String.toList he
    rw [toList_render, toList_render] at hl
    have hne : ∀ x : NonTerminal × List Production, (renderGroup x.1 x.2).toList ≠ [] := fun x => by
      rw [toList_renderGroup, NonTerminal.toList_render]
      exact List.cons_ne_nil _ _
    exact unambiguous_renderGroup.eq_of_intercalate_eq separates_groups hne
      (isPlainGroup_of_mem_groups hg) (isPlainGroup_of_mem_groups hh) hl
  · intro he
    rw [render, render, he]

/-- Literals that look like quotes, alternatives, lines and names, in two orders and under two
starts; and the three symbols that the first of them seems to be. -/
theorem render_eq_of_misleading_literals :
    let p : Production := ⟨⟨"S"⟩, [.terminal ⟨"a\" | <A> \"b"⟩, .nonTerminal ⟨"A"⟩]⟩
    let q : Production := ⟨⟨"A"⟩, [.terminal ⟨"'\\\n<S> ::= \"\""⟩]⟩
    let r : Production := ⟨⟨"S"⟩, []⟩
    let p' : Production := ⟨⟨"S"⟩, [.terminal ⟨"a"⟩]⟩
    let p'' : Production := ⟨⟨"S"⟩, [.nonTerminal ⟨"A"⟩, .terminal ⟨"b"⟩, .nonTerminal ⟨"A"⟩]⟩
    let g := ofProductions [p, q, r, q] ⟨"S"⟩
    let h := ofProductions [r, q, p] ⟨"A"⟩
    let k := ofProductions [p', p'', q, r] ⟨"S"⟩
    (∀ s ∈ g.productions, s.IsPlain) ∧ (∀ s ∈ h.productions, s.IsPlain) ∧
      (∀ s ∈ k.productions, s.IsPlain) ∧ g.render = h.render ∧ g.render ≠ k.render := by
  intro p q r p' p'' g h k
  have hg : ∀ s ∈ g.productions, s.IsPlain := by decide
  have hh : ∀ s ∈ h.productions, s.IsPlain := by decide
  have hk : ∀ s ∈ k.productions, s.IsPlain := by decide
  have he : ∀ s, s ∈ g.productions ↔ s ∈ h.productions := by
    intro s
    simp [g, h, ofProductions, normalized]
    tauto
  have hn : p ∈ g.productions ∧ p ∉ k.productions := by decide
  refine ⟨hg, hh, hk, (render_eq_iff_productions hg hh).2 he, fun hr => ?_⟩
  exact hn.2 (((render_eq_iff_productions hg hk).1 hr p).1 hn.1)

/-- A lone empty literal reads like the empty body. -/
example : renderGroup ⟨"S"⟩ [⟨⟨"S"⟩, [.terminal ⟨""⟩]⟩] = renderGroup ⟨"S"⟩ [⟨⟨"S"⟩, []⟩] := by
  decide

/-- A bracket in a name makes one name read like two. -/
example : renderGroup ⟨"S"⟩ [⟨⟨"S"⟩, [.nonTerminal ⟨"A> <B"⟩]⟩] =
    renderGroup ⟨"S"⟩ [⟨⟨"S"⟩, [.nonTerminal ⟨"A"⟩, .nonTerminal ⟨"B"⟩]⟩] := by
  decide

end Grammar

end ContextFree
