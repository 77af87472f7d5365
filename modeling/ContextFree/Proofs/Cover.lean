import ContextFree.Proofs.Partition

/-! The lines that a span covers, from line feed to line feed: no whole lines that are fewer have the
span between their ends. -/
namespace ContextFree

variable {cs before line after : List Char} {source : String} {span : Span}
  {m n start start' stop stop' number : Nat}

namespace Text

/-- `start` is just behind the last line feed before byte `n`; where there is none, it is 0. -/
def IsLineStart (cs : List Char) (n start : Nat) : Prop :=
  (∃ feed < n, char? cs feed = some '\n' ∧
    (∀ later, feed < later → later < n → char? cs later ≠ some '\n') ∧ start = feed + 1) ∨
  (∀ feed < n, char? cs feed ≠ some '\n') ∧ start = 0

/-- `stop` is the first line feed at byte `n` or behind it; where there is none, it is the end of the
text. -/
def IsLineEnd (cs : List Char) (n stop : Nat) : Prop :=
  (char? cs stop = some '\n' ∧ n ≤ stop ∧
    ∀ earlier, n ≤ earlier → earlier < stop → char? cs earlier ≠ some '\n') ∨
  (∀ feed, n ≤ feed → char? cs feed ≠ some '\n') ∧ stop = size cs

/-- No line starts between the start of the line of a byte and that byte. -/
theorem IsLineStart.le_of_le (h : IsLineStart cs n start) (k : IsLineStart cs m start')
    (hle : start' ≤ n) : start' ≤ start := by
  rcases k with ⟨feed', -, hfeed', -, rfl⟩ | ⟨-, rfl⟩
  · rcases h with ⟨feed, -, -, hlast, rfl⟩ | ⟨hnone, -⟩
    · apply Nat.succ_le_succ
      apply Nat.le_of_not_lt
      intro hlt
      exact hlast feed' hlt hle hfeed'
    · exact absurd hfeed' (hnone feed' hle)
  · exact Nat.zero_le _

/-- No line ends between a byte and the end of its line. -/
theorem IsLineEnd.le_of_le (h : IsLineEnd cs n stop) (k : IsLineEnd cs m stop') (hle : n ≤ stop') :
    stop ≤ stop' := by
  rcases h with ⟨hfeed, -, hfirst⟩ | ⟨hnone, rfl⟩
  · rcases k with ⟨hfeed', -, -⟩ | ⟨-, rfl⟩
    · apply Nat.le_of_not_lt
      intro hlt
      exact hfirst stop' hle hlt hfeed'
    · exact Nat.le_of_lt (lt_size_of_char? hfeed)
  · rcases k with ⟨hfeed', -, -⟩ | ⟨-, rfl⟩
    · exact absurd hfeed' (hnone stop' hle)
    · exact Nat.le_refl _

end Text

open Text

namespace IsLine

theorem char?_ne_lineFeed (h : IsLine before line after) (hs : before ++ (line ++ after) = cs)
    (hb : size before ≤ n) (hn : n < size before + size line) : char? cs n ≠ some '\n' := by
  intro hc
  obtain ⟨u, v, rfl, -, -⟩ := exists_append_of_char? hs hc rfl hb hn
  exact h.notMem (by simp)

theorem isLineStart (h : IsLine before line after) (hs : before ++ (line ++ after) = cs)
    (hb : size before ≤ n) (hn : n ≤ size before + size line) :
    IsLineStart cs n (size before) := by
  have hline : ∀ later, size before ≤ later → later < n → char? cs later ≠ some '\n' :=
    fun later hle hlt => h.char?_ne_lineFeed hs hle (Nat.lt_of_lt_of_le hlt hn)
  rcases List.eq_nil_or_concat before with rfl | ⟨u, c, hu⟩
  · exact .inr ⟨fun feed hlt => hline feed (Nat.zero_le _) hlt, rfl⟩
  · rw [List.concat_eq_append] at hu
    subst hu
    obtain rfl : c = '\n' := h.starts c (by simp)
    have hsize : size (u ++ ['\n']) = size u + 1 := size_append ..
    have hfeed : char? cs (size u) = some '\n' := by
      rw [← hs, List.append_assoc, char?_append]
      rfl
    rw [hsize] at hb hline ⊢
    exact .inl ⟨size u, hb, hfeed, hline, rfl⟩

theorem isLineEnd (h : IsLine before line after) (hs : before ++ (line ++ after) = cs)
    (hb : size before ≤ n) (hn : n ≤ size before + size line) :
    IsLineEnd cs n (size before + size line) := by
  have hline : ∀ earlier, n ≤ earlier → earlier < size before + size line →
      char? cs earlier ≠ some '\n' :=
    fun earlier hle hlt => h.char?_ne_lineFeed hs (Nat.le_trans hb hle) hlt
  cases after with
  | nil =>
    have hsize : size cs = size before + size line := by
      rw [← hs, List.append_nil, size_append]
    refine .inr ⟨fun feed hle hfeed => ?_, hsize.symm⟩
    have hlt := lt_size_of_char? hfeed
    rw [hsize] at hlt
    exact hline feed hle hlt hfeed
  | cons c rest =>
    obtain rfl : c = '\n' := h.ends c (by simp)
    have hfeed : char? cs (size before + size line) = some '\n' := by
      rw [← hs, ← List.append_assoc, ← size_append, char?_append]
      rfl
    exact .inl ⟨hfeed, hn, hline⟩

end IsLine

namespace LineIndex

/-- The bounds of a line go from line feed to line feed, seen from any byte of it. -/
theorem isLineStart_and_isLineEnd (h : (ofSource source).bounds? number = some (start, stop))
    (hstart : start ≤ n) (hstop : n ≤ stop) :
    IsLineStart source.toList n start ∧ IsLineEnd source.toList n stop := by
  obtain ⟨before, line, after, hs, hline, -, rfl, rfl⟩ := bounds?_eq_some_iff.1 h
  exact ⟨hline.isLineStart hs hstart hstop, hline.isLineEnd hs hstart hstop⟩

theorem bounds?_fst_le_snd (h : (ofSource source).bounds? number = some (start, stop)) :
    start ≤ stop := by
  obtain ⟨_, _, _, -, -, -, rfl, rfl⟩ := bounds?_eq_some_iff.1 h
  exact Nat.le_add_right ..

theorem exists_bounds?_of_le (hn : n ≤ (ofSource source).size) :
    ∃ number start stop, (ofSource source).line? n = some number ∧
      (ofSource source).bounds? number = some (start, stop) ∧ start ≤ n ∧ n ≤ stop := by
  obtain ⟨number, hline⟩ :=
    Option.ne_none_iff_exists'.1 (mt line?_eq_none_iff.1 (Nat.not_lt.2 hn))
  obtain ⟨start, stop, hbounds, hle⟩ := line?_eq_some_iff.1 hline
  exact ⟨number, start, stop, hline, hbounds, hle⟩

/-- What the bytes from `start` to `stop` are to a span: the least run of whole lines that has its
first byte and its last. -/
structure IsCover (source : String) (span : Span) (start stop : Nat) : Prop where
  isLineStart : IsLineStart source.toList span.start start
  isLineEnd : IsLineEnd source.toList span.last stop
  start_le : start ≤ span.start
  start_le_stop : start ≤ stop
  /-- The span may still have the line feed in it that ends the last line, but nothing behind it. -/
  stop_le : span.stop ≤ stop + 1
  whole : ∃ first last stop₁ start₂, first ≤ last ∧
    (ofSource source).bounds? first = some (start, stop₁) ∧
    (ofSource source).bounds? last = some (start₂, stop)
  least : ∀ first last start' stop₁ start₂ stop',
    (ofSource source).bounds? first = some (start', stop₁) →
    (ofSource source).bounds? last = some (start₂, stop') →
    start' ≤ span.start → span.last ≤ stop' → start' ≤ start ∧ stop ≤ stop'

theorem exists_isCover (h : span.stop ≤ (ofSource source).size) :
    ∃ start stop, (ofSource source).cover span = .ok (start, stop) ∧
      IsCover source span start stop := by
  have hlast : span.last ≤ (ofSource source).size := Nat.le_trans span.last_le_stop h
  obtain ⟨i, start, stop₁, hi, hbounds, hstart, hstop₁⟩ :=
    exists_bounds?_of_le (Nat.le_trans span.start_le_stop h)
  obtain ⟨j, start₂, stop, hj, hboundsLast, hstart₂, hstop⟩ := exists_bounds?_of_le hlast
  obtain ⟨hlineStart, -⟩ := isLineStart_and_isLineEnd hbounds hstart hstop₁
  obtain ⟨-, hlineEnd⟩ := isLineStart_and_isLineEnd hboundsLast hstart₂ hstop
  refine ⟨start, stop, cover_eq_ok h hi (by rw [hbounds]; rfl) hj (by rw [hboundsLast]; rfl), ?_⟩
  have hle := span.start_le_last
  refine
    { isLineStart := hlineStart
      isLineEnd := hlineEnd
      start_le := hstart
      start_le_stop := by omega
      stop_le := by
        have hnot : ¬ stop + 1 < span.stop := fun hlt => by
          have := Span.le_last hlt
          omega
        omega
      whole := ⟨i, j, stop₁, start₂, line?_mono hle hi hj, hbounds, hboundsLast⟩
      least := ?_ }
  intro first last start' stop₁' start₂' stop' hfirst hlast hstart' hstop'
  have hself := bounds?_fst_le_snd hfirst
  have hselfLast := bounds?_fst_le_snd hlast
  obtain ⟨hother, -⟩ := isLineStart_and_isLineEnd hfirst (Nat.le_refl _) hself
  obtain ⟨-, hotherEnd⟩ := isLineStart_and_isLineEnd hlast hselfLast (Nat.le_refl _)
  exact ⟨hlineStart.le_of_le hother hstart', hlineEnd.le_of_le hotherEnd hstop'⟩

/-- A span is covered unless it ends past the source, also where it cuts a character. -/
theorem cover_isCover (source : String) (span : Span) :
    (∀ fault, (ofSource source).cover span = .error fault ↔
      source.utf8ByteSize < span.stop ∧ fault = .outside span) ∧
    (span.stop ≤ source.utf8ByteSize → ∃ start stop,
      (ofSource source).cover span = .ok (start, stop) ∧ IsCover source span start stop) := by
  rw [← size_ofSource]
  refine ⟨fun fault => ?_, exists_isCover⟩
  by_cases h : (ofSource source).size < span.stop
  · unfold cover
    rw [if_pos h]
    simp [h, eq_comm]
  · obtain ⟨start, stop, hcover, -⟩ := exists_isCover (Nat.le_of_not_lt h)
    simp [hcover, h]

/-- The first span starts inside a character and ends behind a line feed, the second is empty and just
behind that line feed, and the third ends past the source. -/
theorem cover_isCover_around_lineFeed :
    let source := "a\né\r\n\nb"
    let inside : Span := ⟨3, 6, by decide⟩
    let empty : Span := ⟨6, 6, by decide⟩
    let past : Span := ⟨7, 9, by decide⟩
    Text.isBoundary source.toList inside.start = false ∧ source.utf8ByteSize = 8 ∧
      IsCover source inside 2 5 ∧ IsCover source empty 6 6 ∧
      (ofSource source).cover past = .error (.outside past) := by
  intro source inside empty past
  have hinside : (ofSource source).cover inside = .ok (2, 5) :=
    cover_eq_ok (i := 2) (j := 2) (by decide) (by decide) (by decide) (by decide) (by decide)
  have hempty : (ofSource source).cover empty = .ok (6, 6) :=
    cover_eq_ok (i := 3) (j := 3) (by decide) (by decide) (by decide) (by decide) (by decide)
  refine ⟨by decide, by decide, ?_, ?_, ?_⟩
  · obtain ⟨start, stop, hcover, h⟩ := (cover_isCover source inside).2 (by decide)
    obtain ⟨rfl, rfl⟩ := Prod.mk.inj (Except.ok.inj (hinside.symm.trans hcover))
    exact h
  · obtain ⟨start, stop, hcover, h⟩ := (cover_isCover source empty).2 (by decide)
    obtain ⟨rfl, rfl⟩ := Prod.mk.inj (Except.ok.inj (hempty.symm.trans hcover))
    exact h
  · exact ((cover_isCover source past).1 (.outside past)).2 ⟨by decide, rfl⟩

end LineIndex

end ContextFree
