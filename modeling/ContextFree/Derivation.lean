import ContextFree.Grammar.Basic

/-! Derivation by expanding non-terminals, the steps from a head into a body, and finite parse trees whose
leaves are terminals or empty bodies. -/
namespace ContextFree

/-- One non-terminal of a sentential form is replaced by a body. -/
inductive Expands (g : Grammar) : List Symbol → List Symbol → Prop where
  | replace {p : Production} (mem : p ∈ g.productions) (before after : List Symbol) :
    Expands g (before ++ .nonTerminal p.head :: after) (before ++ (p.body ++ after))

inductive Derives (g : Grammar) : List Symbol → List Symbol → Prop where
  | refl (s : List Symbol) : Derives g s s
  | tail {s t u : List Symbol} (derives : Derives g s t) (expands : Expands g t u) :
    Derives g s u

theorem Derives.trans {g : Grammar} {s t u : List Symbol} (h : Derives g s t)
    (k : Derives g t u) : Derives g s u := by
  induction k with
  | refl => exact h
  | tail _ r ih => exact ih.tail r

/-- A production has `a` as its head and `b` in its body. -/
def Grammar.Step (g : Grammar) (a b : NonTerminal) : Prop :=
  ∃ p ∈ g.productions, p.head = a ∧ b ∈ p.nonTerminals

inductive Grammar.LeadsTo (g : Grammar) : NonTerminal → NonTerminal → Prop where
  | single {a b : NonTerminal} (step : g.Step a b) : LeadsTo g a b
  | tail {a b c : NonTerminal} (leads : LeadsTo g a b) (step : g.Step b c) : LeadsTo g a c

def Grammar.Occurs (g : Grammar) (a : NonTerminal) : Prop :=
  ∃ form, Derives g [.nonTerminal g.start] form ∧ Symbol.nonTerminal a ∈ form

/-- One finite parse tree for each symbol of a sequence. -/
inductive Forest (g : Grammar) : List Symbol → Type where
  | nil : Forest g []
  | leaf (t : Terminal) {rest : List Symbol} (trees : Forest g rest) :
    Forest g (.terminal t :: rest)
  | node (p : Production) (mem : p ∈ g.productions) (children : Forest g p.body)
    {rest : List Symbol} (trees : Forest g rest) : Forest g (.nonTerminal p.head :: rest)

namespace Forest

variable {g : Grammar}

/-- The leaves that are terminals, from left to right. -/
def yield {s : List Symbol} : Forest g s → List Terminal
  | .nil => []
  | .leaf t trees => t :: trees.yield
  | .node _ _ children trees => children.yield ++ trees.yield

/-- The productions at the nodes, each node before the nodes below it. -/
def used {s : List Symbol} : Forest g s → List Production
  | .nil => []
  | .leaf _ trees => trees.used
  | .node p _ children trees => p :: children.used ++ trees.used

theorem mem_used_node {s : List Symbol} {p q : Production} {mem : q ∈ g.productions}
    {children : Forest g q.body} {trees : Forest g s} :
    p ∈ (node q mem children trees).used ↔ p = q ∨ p ∈ children.used ∨ p ∈ trees.used := by
  simp [used]

theorem mem_productions_of_mem_used {s : List Symbol} {f : Forest g s} {p : Production}
    (h : p ∈ f.used) : p ∈ g.productions := by
  induction f with
  | nil => simp [used] at h
  | leaf t trees ih => exact ih h
  | node q mem children trees hc ht =>
    rcases mem_used_node.1 h with rfl | h | h
    · exact mem
    · exact hc h
    · exact ht h

def append {s r : List Symbol} : Forest g s → Forest g r → Forest g (s ++ r)
  | .nil, f => f
  | .leaf t trees, f => .leaf t (trees.append f)
  | .node p mem children trees, f => .node p mem children (trees.append f)

@[simp]
theorem yield_append {s r : List Symbol} (f : Forest g s) (h : Forest g r) :
    (f.append h).yield = f.yield ++ h.yield := by
  induction f with
  | nil => rfl
  | leaf t trees ih => simp [append, yield, ih]
  | node p mem children trees _ ih => simp [append, yield, ih]

@[simp]
theorem used_append {s r : List Symbol} (f : Forest g s) (h : Forest g r) :
    (f.append h).used = f.used ++ h.used := by
  induction f with
  | nil => rfl
  | leaf t trees ih => simp [append, used, ih]
  | node p mem children trees _ ih => simp [append, used, ih]

end Forest

abbrev ParseTree (g : Grammar) (a : NonTerminal) : Type :=
  Forest g [.nonTerminal a]

def Grammar.Generates (g : Grammar) (w : List Terminal) : Prop :=
  ∃ t : ParseTree g g.start, t.yield = w

end ContextFree
