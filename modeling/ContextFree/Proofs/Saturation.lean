import ContextFree.Survey.Saturation
import Mathlib.Tactic.ByContra

/-! Saturation computes the least set of heads that is closed under the productions, whatever their
order and repeats. -/
namespace ContextFree.Saturation

variable {terminals : Bool} {ps qs : List Production} {marked : List NonTerminal}
  {P Q : NonTerminal → Prop} {a : NonTerminal}

/-- Whether a symbol holds when just the non-terminals with `P` do. -/
def HoldsUnder (terminals : Bool) (P : NonTerminal → Prop) : Symbol → Prop
  | .terminal _ => terminals = true
  | .nonTerminal a => P a

/-- The head of a production has `P` once every symbol of the body holds under `P`. -/
def Closed (terminals : Bool) (ps : List Production) (P : NonTerminal → Prop) : Prop :=
  ∀ p ∈ ps, (∀ s ∈ p.body, HoldsUnder terminals P s) → P p.head

theorem HoldsUnder.mono (h : ∀ a, P a → Q a) {s : Symbol} (hs : HoldsUnder terminals P s) :
    HoldsUnder terminals Q s := by
  cases s with
  | terminal t => exact hs
  | nonTerminal a => exact h a hs

theorem Closed.of_subset (h : Closed terminals qs P) (hs : ps ⊆ qs) : Closed terminals ps P :=
  fun p hp => h p (hs hp)

theorem holds_iff {s : Symbol} :
    holds terminals marked s = true ↔ HoldsUnder terminals (· ∈ marked) s := by
  cases s <;> simp [holds, HoldsUnder]

theorem fires_iff {p : Production} :
    fires terminals marked p = true ↔
      p.head ∉ marked ∧ ∀ s ∈ p.body, HoldsUnder terminals (· ∈ marked) s := by
  simp [fires, holds_iff]

theorem fires_eq_false_of_terminal_mem {p : Production} {t : Terminal}
    (ht : Symbol.terminal t ∈ p.body) : fires false marked p = false := by
  by_contra h
  have hb := (fires_iff.1 (eq_true_of_ne_false h)).2 _ ht
  exact Bool.noConfusion hb

theorem forall_mem_pass (hP : Closed terminals ps P) (hm : ∀ a ∈ marked, P a) :
    ∀ a ∈ pass terminals ps marked, P a := by
  induction ps generalizing marked with
  | nil => exact hm
  | cons p ps ih =>
    have hps : Closed terminals ps P := hP.of_subset (List.subset_cons_self p ps)
    rw [pass]
    split
    · next hf =>
      have hb := (fires_iff.1 hf).2
      have hp : P p.head :=
        hP p List.mem_cons_self fun s hs => (hb s hs).mono hm
      exact ih hps (by simpa using ⟨hp, hm⟩)
    · exact ih hps hm

theorem forall_mem_history (hP : Closed terminals ps P) (hm : ∀ a ∈ marked, P a) :
    ∀ marks ∈ history terminals ps marked, ∀ a ∈ marks, P a := by
  fun_induction history terminals ps marked with
  | case1 marked h => simpa using hm
  | case2 marked h ih =>
    have hpass := forall_mem_pass hP hm
    intro marks hmarks
    rcases List.mem_cons.1 hmarks with rfl | hrest
    · exact hpass
    · exact ih hpass marks hrest

theorem fires_eq_false_of_length_pass_eq
    (h : (pass terminals ps marked).length = marked.length) :
    ∀ p ∈ ps, fires terminals marked p = false := by
  induction ps with
  | nil => simp
  | cons p ps ih =>
    have hp : fires terminals marked p = false := by
      -- A production that fires sets a mark, and no later one takes it back.
      by_contra hf
      have hl := length_le_length_pass terminals ps (p.head :: marked)
      rw [pass, if_pos (eq_true_of_ne_false hf)] at h
      rw [List.length_cons] at hl
      omega
    rw [pass, hp] at h
    intro q hq
    rcases List.mem_cons.1 hq with rfl | hq
    · exact hp
    · exact ih h q hq

theorem fires_last_history_eq_false (terminals : Bool) (ps : List Production)
    (marked last : List NonTerminal) :
    ∀ p ∈ ps, fires terminals ((history terminals ps marked).getLastD last) p = false := by
  fun_induction history terminals ps marked generalizing last with
  | case1 marked h => exact fires_eq_false_of_length_pass_eq h
  | case2 marked h ih =>
    rw [List.getLastD_cons]
    exact ih _

theorem closed_closure (terminals : Bool) (ps : List Production) :
    Closed terminals ps (· ∈ closure terminals ps) := by
  intro p hp hb
  by_contra hh
  have hf : fires terminals (closure terminals ps) p = true := fires_iff.2 ⟨hh, hb⟩
  have hn := fires_last_history_eq_false terminals ps [] [] p hp
  exact Bool.noConfusion (hf.symm.trans hn)

theorem of_mem_closure (hP : Closed terminals ps P) (ha : a ∈ closure terminals ps) : P a := by
  have hmem : closure terminals ps ∈ [] :: history terminals ps [] := List.getLastD_mem_cons
  rcases List.mem_cons.1 hmem with he | hh
  · rw [he] at ha
    simp at ha
  · exact forall_mem_history hP (by simp) _ hh a ha

theorem exists_head_of_mem_closure (ha : a ∈ closure terminals ps) : ∃ p ∈ ps, p.head = a :=
  of_mem_closure (P := fun a => ∃ p ∈ ps, p.head = a) (fun p hp _ => ⟨p, hp, rfl⟩) ha

end ContextFree.Saturation
