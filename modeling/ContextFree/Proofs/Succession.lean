import ContextFree.Proofs.Positions
import ContextFree.SyntaxError
import Mathlib.Data.Prod.Lex

/-! Positions keep the order of the bytes. Of two boundaries the later one has the greater line, or the
same line and the greater column; only a line feed has the position of the carriage return directly
before it. -/
namespace ContextFree

variable {after between u v cs : List Char} {source : String} {p : Nat × Nat} {m n : Nat}

namespace Text

/-- Byte `m` is a carriage return, and byte `n` the line feed directly behind it. -/
def IsReturnAndFeed (cs : List Char) (m n : Nat) : Prop :=
  n = m + 1 ∧ char? cs m = some '\r' ∧ char? cs n = some '\n'

instance : Decidable (IsReturnAndFeed cs m n) :=
  inferInstanceAs (Decidable (_ ∧ _))

/-- The two characters are told apart by what stands between their bytes: the first one alone. -/
theorem isReturnAndFeed_iff (hne : between ≠ []) :
    IsReturnAndFeed (u ++ (between ++ v)) (size u) (size (u ++ between)) ↔
      between = ['\r'] ∧ v.head? = some '\n' := by
  have hfirst : char? (u ++ (between ++ v)) (size u) = between.head? := by
    rw [char?_append, List.head?_append, Option.or_of_isSome]
    exact List.isSome_head?.2 hne
  have hnext : char? (u ++ (between ++ v)) (size (u ++ between)) = v.head? := by
    rw [← List.append_assoc, char?_append]
  unfold IsReturnAndFeed
  rw [hfirst, hnext, size_append]
  constructor
  · rintro ⟨hsize, hreturn, hfeed⟩
    obtain ⟨rest, rfl⟩ := List.head?_eq_some_iff.1 hreturn
    have hone : size ('\r' :: rest) = 1 + size rest := rfl
    have hrest : rest = [] := eq_nil_of_size_eq_zero (by omega)
    exact ⟨congrArg ('\r' :: ·) hrest, hfeed⟩
  · rintro ⟨rfl, hfeed⟩
    exact ⟨rfl, rfl, hfeed⟩

end Text

namespace Scanner

theorem toLex_le_advance (p : Nat × Nat) (c : Char) (next : Option Char) :
    toLex p ≤ toLex (advance p c next) := by
  unfold advance
  rw [Prod.Lex.toLex_le_toLex]
  split
  · left
    exact Nat.lt_succ_self _
  · split
    · exact .inr ⟨rfl, Nat.le_refl _⟩
    · exact .inr ⟨rfl, Nat.le_succ _⟩

/-- Only a carriage return that has no column of its own leaves the position as it is. -/
theorem advance_eq_self_iff {c : Char} {next : Option Char} :
    advance p c next = p ↔ c = '\r' ∧ next = some '\n' := by
  unfold advance
  rw [Prod.ext_iff]
  split
  · next h =>
    subst h
    simp
  · split
    · next h => simpa using h
    · next h => simpa using h

theorem toLex_le_advanceAll (after : List Char) (p : Nat × Nat) (cs : List Char) :
    toLex p ≤ toLex (advanceAll after p cs) := by
  induction cs generalizing p with
  | nil => exact le_refl _
  | cons c cs ih => exact le_trans (toLex_le_advance p c _) (ih _)

/-- Behind a carriage return that leaves the position as it is comes a line feed, which does not. -/
theorem advanceAll_eq_self_iff :
    advanceAll after p cs = p ↔ cs = [] ∨ cs = ['\r'] ∧ after.head? = some '\n' := by
  induction cs generalizing p with
  | nil => simp [advanceAll]
  | cons c cs ih =>
    constructor
    · intro h
      have hle := toLex_le_advanceAll after (advance p c (cs.head?.or after.head?)) cs
      have hstep : advance p c (cs.head?.or after.head?) = p := by
        apply toLex.injective
        apply le_antisymm _ (toLex_le_advance p c _)
        rwa [← advanceAll, h] at hle
      obtain ⟨rfl, hnext⟩ := advance_eq_self_iff.1 hstep
      rw [advanceAll, hstep] at h
      right
      rcases ih.1 h with rfl | ⟨rfl, -⟩
      · exact ⟨rfl, hnext⟩
      · cases hnext
    · rintro (h | ⟨h, hnext⟩)
      · cases h
      · obtain ⟨rfl, rfl⟩ := List.cons.inj h
        exact advance_eq_self_iff.2 ⟨rfl, hnext⟩

end Scanner

/-- The positions of two boundaries in order: the second is what the scanner makes of the first when it
reads on. -/
theorem LineIndex.exists_positions_of_le (hm : String.Pos.Raw.IsValid source ⟨m⟩)
    (hn : String.Pos.Raw.IsValid source ⟨n⟩) (hle : m ≤ n) :
    ∃ p q, (ofSource source).position? source m = .ok (some p) ∧
      (ofSource source).position? source n = .ok (some q) ∧ toLex p ≤ toLex q ∧
      (p = q ↔ m = n ∨ Text.IsReturnAndFeed source.toList m n) := by
  rw [← Text.isBoundary_toList_iff, Text.isBoundary_iff] at hm hn
  obtain ⟨u, rest, hu, rfl⟩ := hm
  obtain ⟨d, v, hd, rfl⟩ := hn
  obtain ⟨between, rfl, rfl⟩ := Text.exists_append_of_size_le (hu.trans hd.symm) hle
  have hfirst := position?_append hu
  have hsecond := position?_append hd
  rw [Scanner.advanceAll_append] at hsecond
  refine ⟨_, _, hfirst, hsecond, Scanner.toLex_le_advanceAll .., ?_⟩
  rw [eq_comm, Scanner.advanceAll_eq_self_iff, ← hu]
  by_cases hne : between = []
  · simp [hne]
  · have hsize : Text.size u ≠ Text.size (u ++ between) := by
      intro hsame
      rw [Text.size_append] at hsame
      exact hne (Text.eq_nil_of_size_eq_zero (by omega))
    rw [Text.isReturnAndFeed_iff hne, or_iff_right hne, or_iff_right hsize]

theorem SyntaxError.positions_eq {e : SyntaxError} {p q : Nat × Nat}
    (hp : (LineIndex.ofSource e.source).position? e.source e.span.start = .ok (some p))
    (hq : (LineIndex.ofSource e.source).position? e.source e.span.stop = .ok (some q)) :
    e.positions = .ok (p, q) := by
  simp only [positions, hp, hq]
  rfl

/-- Lines and columns order the boundaries of a source as their bytes do, and tell all of them apart but
a carriage return and the line feed behind it. So an error starts where it ends or before, and both
have one position just if the span is empty or has only such a carriage return in it. -/
theorem positions_ordered :
    (∀ (source : String) (m n : Nat), String.Pos.Raw.IsValid source ⟨m⟩ →
      String.Pos.Raw.IsValid source ⟨n⟩ → m < n →
      ∃ p q, (LineIndex.ofSource source).position? source m = .ok (some p) ∧
        (LineIndex.ofSource source).position? source n = .ok (some q) ∧
        (p = q ↔ Text.IsReturnAndFeed source.toList m n) ∧
        (toLex p < toLex q ↔ ¬ Text.IsReturnAndFeed source.toList m n)) ∧
    ∀ e : SyntaxError, ∃ p q, e.positions = .ok (p, q) ∧ toLex p ≤ toLex q ∧
      (p = q ↔ e.span.isEmpty = true ∨
        Text.IsReturnAndFeed e.source.toList e.span.start e.span.stop) := by
  constructor
  · intro source m n hm hn hlt
    obtain ⟨p, q, hp, hq, hle, heq⟩ := LineIndex.exists_positions_of_le hm hn (Nat.le_of_lt hlt)
    rw [or_iff_right (Nat.ne_of_lt hlt)] at heq
    refine ⟨p, q, hp, hq, heq, ?_⟩
    rw [← heq, lt_iff_le_and_ne, and_iff_right hle, ne_eq, toLex_inj]
  · intro e
    obtain ⟨-, hstart, hstop⟩ := Span.fits_iff_isValid.1 e.fits
    obtain ⟨p, q, hp, hq, hle, heq⟩ :=
      LineIndex.exists_positions_of_le hstart hstop e.span.start_le_stop
    have hempty : e.span.isEmpty = true ↔ e.span.start = e.span.stop := by
      have := e.span.start_le_stop
      unfold Span.isEmpty Span.length
      rw [decide_eq_true_eq]
      omega
    rw [← hempty] at heq
    exact ⟨p, q, SyntaxError.positions_eq hp hq, hle, heq⟩

/-- Bytes 2 and 3 have one position, bytes 4 and 5 have two: the last carriage return has a column. -/
theorem positions_ordered_around_returns :
    let source := "é\r\n\r"
    let ix := LineIndex.ofSource source
    let e : SyntaxError := ⟨⟨2, 3, by decide⟩, .unknownToken, [], source, by decide⟩
    (∃ p, ix.position? source 2 = .ok (some p) ∧ ix.position? source 3 = .ok (some p)) ∧
      (∃ p q, ix.position? source 4 = .ok (some p) ∧ ix.position? source 5 = .ok (some q) ∧
        toLex p < toLex q) ∧
      ∃ p, e.positions = .ok (p, p) := by
  intro source ix e
  have hvalid (n : Nat) (h : Text.isBoundary source.toList n = true) :
      String.Pos.Raw.IsValid source ⟨n⟩ :=
    Text.isBoundary_toList_iff.1 h
  obtain ⟨hordered, herror⟩ := positions_ordered
  refine ⟨?_, ?_, ?_⟩
  · obtain ⟨p, q, hp, hq, heq, -⟩ :=
      hordered source 2 3 (hvalid 2 (by decide)) (hvalid 3 (by decide)) (by decide)
    obtain rfl : p = q := heq.2 (by decide)
    exact ⟨p, hp, hq⟩
  · obtain ⟨p, q, hp, hq, -, hlt⟩ :=
      hordered source 4 5 (hvalid 4 (by decide)) (hvalid 5 (by decide)) (by decide)
    exact ⟨p, q, hp, hq, hlt.2 (by decide)⟩
  · obtain ⟨p, q, hpq, -, heq⟩ := herror e
    obtain rfl : p = q := heq.2 (.inr (by decide))
    exact ⟨p, hpq⟩

end ContextFree
