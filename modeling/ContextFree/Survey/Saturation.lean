import ContextFree.Production

/-! Marking heads of productions until nothing changes: a head is marked once one of its bodies holds
symbol by symbol. -/
namespace ContextFree.Saturation

/-- A non-terminal holds once it is marked; `terminals` says whether terminals hold. -/
def holds (terminals : Bool) (marked : List NonTerminal) : Symbol → Bool
  | .terminal _ => terminals
  | .nonTerminal a => marked.contains a

/-- Whether a pass that has the marks `marked` marks the head of `p`. -/
def fires (terminals : Bool) (marked : List NonTerminal) (p : Production) : Bool :=
  !marked.contains p.head && p.body.all (holds terminals marked)

/-- One pass over the productions in order, which uses new marks at once. -/
def pass (terminals : Bool) : List Production → List NonTerminal → List NonTerminal
  | [], marked => marked
  | p :: ps, marked =>
    pass terminals ps (if fires terminals marked p then p.head :: marked else marked)

def pending (ps : List Production) (marked : List NonTerminal) : Nat :=
  ps.countP fun p => !marked.contains p.head

theorem pending_cons_lt {ps : List Production} {p : Production} {marked : List NonTerminal}
    (hp : p ∈ ps) (hm : marked.contains p.head = false) :
    pending ps (p.head :: marked) < pending ps marked := by
  simp only [pending, List.countP_eq_length_filter]
  have h : ps.filter (fun q => !(p.head :: marked).contains q.head) =
      (ps.filter fun q => !marked.contains q.head).filter fun q => q.head ≠ p.head := by
    simp [List.filter_filter, Bool.not_or]
  rw [h, List.length_filter_lt_length_iff_exists]
  exact ⟨p, List.mem_filter.2 ⟨hp, by simpa using hm⟩, by simp⟩

theorem pending_pass_add_length_le {ps : List Production} (terminals : Bool)
    (qs : List Production) (hq : ∀ q ∈ qs, q ∈ ps) (marked : List NonTerminal) :
    pending ps (pass terminals qs marked) + (pass terminals qs marked).length ≤
      pending ps marked + marked.length := by
  induction qs generalizing marked with
  | nil => exact Nat.le_refl _
  | cons q qs ih =>
    have ih := fun m => ih (fun r hr => hq r (List.mem_cons_of_mem _ hr)) m
    rw [pass]
    split
    · next h =>
      have hm : marked.contains q.head = false := by
        simpa using (Bool.and_eq_true_iff.1 h).1
      have := pending_cons_lt (hq q List.mem_cons_self) hm
      have := ih (q.head :: marked)
      simp only [List.length_cons] at this
      omega
    · exact ih marked

theorem length_le_length_pass (terminals : Bool) (ps : List Production)
    (marked : List NonTerminal) : marked.length ≤ (pass terminals ps marked).length := by
  induction ps generalizing marked with
  | nil => exact Nat.le_refl _
  | cons p ps ih =>
    refine Nat.le_trans ?_ (ih _)
    split <;> simp

/-- The marks after each pass, the first pass starting from `marked`; the last pass adds none. -/
def history (terminals : Bool) (ps : List Production) (marked : List NonTerminal) :
    List (List NonTerminal) :=
  if (pass terminals ps marked).length = marked.length then [marked]
  else pass terminals ps marked :: history terminals ps (pass terminals ps marked)
termination_by pending ps marked
decreasing_by
  have := pending_pass_add_length_le terminals ps (fun _ h => h) marked
  have := length_le_length_pass terminals ps marked
  omega

/-- The heads that are marked in the end. -/
def closure (terminals : Bool) (ps : List Production) : List NonTerminal :=
  (history terminals ps []).getLastD []

end ContextFree.Saturation
