import ContextFree.Source.LineIndex

/-! The lines of a text. The index has the start of each, and the line of a byte is known from the
line feeds before it. -/
namespace ContextFree

/-- `line` is one of the lines of the text `before ++ line ++ after`, without the line feed that
ends it. -/
structure IsLine (before line after : List Char) : Prop where
  notMem : '\n' ∉ line
  starts : ∀ c ∈ before.getLast?, c = '\n'
  ends : ∀ c ∈ after.head?, c = '\n'

variable {before line after u v cs : List Char} {source : String} {n byte : Nat}

/-- A first piece of a line. -/
theorem IsLine.notMem_left {left right : List Char} (h : IsLine before (left ++ right) after) :
    '\n' ∉ left :=
  fun hm => h.notMem (List.mem_append_left _ hm)

theorem exists_lineBefore (u : List Char) :
    ∃ before left, before ++ left = u ∧ '\n' ∉ left ∧ ∀ c ∈ before.getLast?, c = '\n' := by
  induction u with
  | nil => exact ⟨[], [], rfl, by simp, by simp⟩
  | cons c u ih =>
    obtain ⟨before, left, rfl, hl, hb⟩ := ih
    cases before with
    | cons b before => exact ⟨c :: b :: before, left, rfl, hl, by simpa using hb⟩
    | nil =>
      by_cases hc : c = '\n'
      · exact ⟨[c], left, rfl, hl, by simpa using hc⟩
      · exact ⟨[], c :: left, rfl, by simpa [hl] using Ne.symm hc, by simp⟩

theorem exists_lineAfter (v : List Char) :
    ∃ right after, right ++ after = v ∧ '\n' ∉ right ∧ ∀ c ∈ after.head?, c = '\n' := by
  induction v with
  | nil => exact ⟨[], [], rfl, by simp, by simp⟩
  | cons c v ih =>
    by_cases hc : c = '\n'
    · exact ⟨[], c :: v, rfl, by simp, by simpa using hc⟩
    · obtain ⟨right, after, rfl, hr, ha⟩ := ih
      exact ⟨c :: right, after, rfl, by simpa [hr] using Ne.symm hc, ha⟩

/-- Wherever a text is cut, the cut is on a line. -/
theorem exists_isLine (u v : List Char) :
    ∃ before left right after, before ++ left = u ∧ right ++ after = v ∧
      IsLine before (left ++ right) after := by
  obtain ⟨before, left, hu, hl, hb⟩ := exists_lineBefore u
  obtain ⟨right, after, hv, hr, ha⟩ := exists_lineAfter v
  have hn : '\n' ∉ left ++ right := by simp [hl, hr]
  exact ⟨before, left, right, after, hu, hv, hn, hb, ha⟩

theorem count_append_of_notMem (h : '\n' ∉ line) :
    (before ++ line).count '\n' = before.count '\n' := by
  rw [List.count_append, List.count_eq_zero.2 h, Nat.add_zero]

/-- Behind a line and its line feed one line more has ended. -/
theorem count_append_lineFeed (h : '\n' ∉ line) :
    (before ++ (line ++ ['\n'])).count '\n' = before.count '\n' + 1 := by
  rw [← List.append_assoc, List.count_append, count_append_of_notMem h, List.count_singleton_self]

theorem Text.size_append_lineFeed (before line : List Char) :
    size (before ++ (line ++ ['\n'])) = size before + size line + 1 := by
  rw [← List.append_assoc, size_append, size_append]
  rfl

/-- A cut with more line feeds before it than a line has is behind the end of that line. -/
theorem IsLine.size_lt (h : IsLine before line after) (hs : before ++ (line ++ after) = u ++ v)
    (hlt : before.count '\n' < u.count '\n') :
    Text.size before + Text.size line < Text.size u := by
  apply Nat.lt_of_not_le
  intro hle
  rw [← Text.size_append] at hle
  obtain ⟨m, hm, -⟩ :=
    Text.exists_append_of_size_le (hs.symm.trans (List.append_assoc ..).symm) hle
  have hline : (before ++ line).count '\n' = before.count '\n' := count_append_of_notMem h.notMem
  rw [← hline, hm, List.count_append] at hlt
  omega

theorem splitOn_cons (c : Char) (cs : List Char) :
    (c :: cs).splitOn '\n' =
      if c = '\n' then [] :: cs.splitOn '\n' else (cs.splitOn '\n').modifyHead (c :: ·) := by
  simp [List.splitOn_cons_eq_if_modifyHead]

theorem length_splitOn (cs : List Char) : (cs.splitOn '\n').length = cs.count '\n' + 1 := by
  induction cs with
  | nil => rfl
  | cons c cs ih =>
    rw [splitOn_cons, List.count_cons]
    by_cases hc : c = '\n' <;> simp [hc, ih]

theorem notMem_of_mem_splitOn (cs : List Char) : ∀ l ∈ cs.splitOn '\n', '\n' ∉ l := by
  induction cs with
  | nil => simp
  | cons c cs ih =>
    rw [splitOn_cons]
    split
    · simpa using ih
    · next hc =>
      cases hl : cs.splitOn '\n' with
      | nil => simp
      | cons l ls =>
        rw [hl] at ih
        simpa [Ne.symm hc] using ih

namespace LineIndex

theorem startsAfter_append (n : Nat) (u v : List Char) :
    startsAfter n (u ++ v) = startsAfter n u ++ startsAfter (n + Text.size u) v := by
  induction u generalizing n with
  | nil => rfl
  | cons c u ih =>
    have hn : n + (c.utf8Size + Text.size u) = n + c.utf8Size + Text.size u :=
      (Nat.add_assoc ..).symm
    rw [List.cons_append, startsAfter, startsAfter, Text.size, ih, hn]
    split <;> rfl

theorem length_startsAfter (n : Nat) (cs : List Char) :
    (startsAfter n cs).length = cs.count '\n' := by
  induction cs generalizing n with
  | nil => rfl
  | cons c cs ih =>
    rw [startsAfter, List.count_cons]
    by_cases hc : c = '\n' <;> simp [hc, ih]

theorem startsAfter_eq_nil (h : '\n' ∉ cs) : startsAfter n cs = [] := by
  rw [← List.length_eq_zero_iff, length_startsAfter, List.count_eq_zero]
  exact h

theorem mem_startsAfter_cons {x : Nat} {c : Char} (h : x ∈ startsAfter n (c :: cs)) :
    x = n + c.utf8Size ∨ x ∈ startsAfter (n + c.utf8Size) cs := by
  rw [startsAfter] at h
  split at h
  · exact List.mem_cons.1 h
  · exact .inr h

/-- A line starts after the line feed, so at a later byte than the text does. -/
theorem bounds_of_mem_startsAfter {x : Nat} (h : x ∈ startsAfter n cs) :
    n < x ∧ x ≤ n + Text.size cs := by
  induction cs generalizing n with
  | nil => simp [startsAfter] at h
  | cons c cs ih =>
    have hc := c.utf8Size_pos
    rw [Text.size]
    rcases mem_startsAfter_cons h with rfl | h
    · omega
    · have := ih h
      omega

theorem size_add_le_of_mem_startsAfter {x : Nat} {c : Char} (hx : x ∈ startsAfter n cs)
    (hc : c ∈ cs.head?) : n + c.utf8Size ≤ x := by
  cases cs with
  | nil => simp at hc
  | cons d cs =>
    obtain rfl : d = c := by simpa using hc
    rcases mem_startsAfter_cons hx with rfl | hx
    · exact Nat.le_refl _
    · exact Nat.le_of_lt (bounds_of_mem_startsAfter hx).1

theorem starts_ofSource (hs : u ++ v = source.toList) :
    (ofSource source).starts = (0 :: startsAfter 0 u) ++ startsAfter (Text.size u) v := by
  rw [ofSource, ← hs, startsAfter_append, Nat.zero_add, List.cons_append]

/-- Here `u` is all that is read when `byte` is reached: it may be inside the next character. -/
theorem line?_ofSource (hs : u ++ v = source.toList) (hu : Text.size u ≤ byte)
    (hv : ∀ c ∈ v.head?, byte < Text.size u + c.utf8Size) (hb : byte ≤ Text.size source.toList) :
    (ofSource source).line? byte = some (u.count '\n' + 1) := by
  have hsize : ¬ (ofSource source).size < byte := Nat.not_lt.2 hb
  have hstart : ∀ x ∈ startsAfter 0 u, decide (x ≤ byte) = true := by
    intro x hx
    have := bounds_of_mem_startsAfter hx
    exact decide_eq_true (by omega)
  have hlate : ∀ x ∈ startsAfter (Text.size u) v, ¬ decide (x ≤ byte) = true := by
    intro x hx
    rw [decide_eq_true_eq]
    cases v with
    | nil => simp [startsAfter] at hx
    | cons c v =>
      have hc : c ∈ (c :: v).head? := by simp
      have := hv c hc
      have := size_add_le_of_mem_startsAfter hx hc
      omega
  rw [line?, if_neg hsize, starts_ofSource hs, List.cons_append, List.countP_cons_of_pos (by simp),
    List.countP_append, List.countP_eq_length.2 hstart, List.countP_eq_zero.2 hlate,
    length_startsAfter, Nat.add_zero]

/-- Where the text is cut, what is read before has one line feed for each line but the last. -/
theorem line?_size (hs : u ++ v = source.toList) :
    (ofSource source).line? (Text.size u) = some (u.count '\n' + 1) := by
  have hle : Text.size u ≤ Text.size source.toList := by
    rw [← hs, Text.size_append]
    omega
  refine line?_ofSource hs (Nat.le_refl _) (fun c _ => ?_) hle
  have := c.utf8Size_pos
  omega

theorem getElem?_startsAfter (hb : ∀ c ∈ before.getLast?, c = '\n') :
    (0 :: startsAfter 0 before)[before.count '\n']? = some (Text.size before) := by
  rcases List.eq_nil_or_concat before with rfl | ⟨b, c, he⟩
  · rfl
  · rw [List.concat_eq_append] at he
    subst he
    obtain rfl : c = '\n' := hb c (by simp)
    have hlast : startsAfter 0 (b ++ ['\n']) = startsAfter 0 b ++ [Text.size b + 1] := by
      rw [startsAfter_append, Nat.zero_add]
      rfl
    have hsize : Text.size (b ++ ['\n']) = Text.size b + 1 := by
      rw [Text.size_append]
      rfl
    rw [hlast, hsize, List.count_append, List.count_singleton_self, List.getElem?_cons_succ,
      ← length_startsAfter 0 b, List.getElem?_concat_length]

theorem getElem?_starts (hb : ∀ c ∈ before.getLast?, c = '\n') (hs : before ++ v = source.toList) :
    (ofSource source).starts[before.count '\n']? = some (Text.size before) := by
  have hlt : before.count '\n' < (0 :: startsAfter 0 before).length := by
    rw [List.length_cons, length_startsAfter]
    omega
  rw [starts_ofSource hs, List.getElem?_append_left hlt, getElem?_startsAfter hb]

theorem bounds?_ofSource (h : IsLine before line after)
    (hs : before ++ (line ++ after) = source.toList) :
    (ofSource source).bounds? (before.count '\n' + 1) =
      some (Text.size before, Text.size before + Text.size line) := by
  -- The next line starts behind the line feed that `after` begins with, if there is one.
  have hnext : (ofSource source).starts[before.count '\n' + 1]? =
      after.head?.map fun _ => Text.size before + Text.size line + 1 := by
    have hlen : before.count '\n' + 1 = (0 :: startsAfter 0 before).length := by
      rw [List.length_cons, length_startsAfter]
    rw [starts_ofSource hs, startsAfter_append, startsAfter_eq_nil h.notMem, List.nil_append, hlen,
      List.getElem?_append_right (Nat.le_refl _), Nat.sub_self]
    cases after with
    | nil => rfl
    | cons c after =>
      obtain rfl : c = '\n' := h.ends c (by simp)
      rfl
  rw [bounds?, getElem?_starts h.starts hs, Option.map_some, hnext]
  cases after with
  | nil =>
    rw [ofSource, ← hs]
    simp
  | cons c after => rfl

theorem countP_of_line? {ix : LineIndex} {number : Nat} (h : ix.line? byte = some number) :
    ix.starts.countP (· ≤ byte) = number := by
  unfold line? at h
  split at h
  · cases h
  · exact Option.some.inj h

theorem line?_mono {ix : LineIndex} {m n i j : Nat} (hle : m ≤ n) (hm : ix.line? m = some i)
    (hn : ix.line? n = some j) : i ≤ j := by
  rw [← countP_of_line? hm, ← countP_of_line? hn]
  apply List.countP_mono_left
  intro x _ hx
  rw [decide_eq_true_eq] at hx ⊢
  exact Nat.le_trans hx hle

/-- A cover goes from the start of one line to the end of another. -/
theorem cover_eq_ok {ix : LineIndex} {span : Span} {i j start stop : Nat}
    (hsize : span.stop ≤ ix.size) (hi : ix.line? span.start = some i)
    (hstart : (ix.bounds? i).map Prod.fst = some start) (hj : ix.line? span.last = some j)
    (hstop : (ix.bounds? j).map Prod.snd = some stop) : ix.cover span = .ok (start, stop) := by
  obtain ⟨⟨_, _⟩, hbounds, rfl⟩ := Option.map_eq_some_iff.1 hstart
  obtain ⟨⟨_, _⟩, hboundsLast, rfl⟩ := Option.map_eq_some_iff.1 hstop
  have hlast : (if span.isEmpty then span.start else span.stop - 1) = span.last := rfl
  unfold cover
  rw [if_neg (Nat.not_lt.2 hsize)]
  simp only [hlast, hi, hj, Option.bind_some, hbounds, hboundsLast]

end LineIndex

/-- A line is known from its number. -/
theorem IsLine.eq_of_count_eq {b l a : List Char} (h : IsLine before line after) (k : IsLine b l a)
    (hs : before ++ (line ++ after) = source.toList) (ks : b ++ (l ++ a) = source.toList)
    (hc : before.count '\n' = b.count '\n') : before = b ∧ line = l ∧ after = a := by
  have hbounds := LineIndex.bounds?_ofSource h hs
  rw [hc, LineIndex.bounds?_ofSource k ks, Option.some.injEq, Prod.mk.injEq] at hbounds
  obtain ⟨hbefore, hline⟩ := hbounds
  obtain ⟨rfl, hrest⟩ := Text.append_inj_of_size_eq (hs.trans ks.symm) hbefore.symm
  exact ⟨rfl, Text.append_inj_of_size_eq hrest (by omega)⟩

/-- Every byte, also one inside a character, is on a line; the end of a line is on it too. -/
theorem exists_line_of_le (hb : byte ≤ Text.size source.toList) :
    ∃ before line after, before ++ (line ++ after) = source.toList ∧ IsLine before line after ∧
      Text.size before ≤ byte ∧ byte ≤ Text.size before + Text.size line ∧
      (LineIndex.ofSource source).line? byte = some (before.count '\n' + 1) := by
  obtain ⟨u, v, hs, hu, hv⟩ := Text.exists_cut_of_le hb
  have hline := LineIndex.line?_ofSource hs hu hv hb
  obtain ⟨before, left, right, after, rfl, rfl, h⟩ := exists_isLine u v
  have hleft : '\n' ∉ left := h.notMem_left
  refine ⟨before, left ++ right, after, ?_, h, ?_, ?_, ?_⟩
  · simpa using hs
  · rw [Text.size_append] at hu
    omega
  · rw [Text.size_append] at hu hv ⊢
    cases right with
    | cons c right =>
      have := hv c (by simp)
      rw [Text.size]
      omega
    | nil =>
      cases after with
      | nil =>
        rw [← hs] at hb
        simpa [Text.size] using hb
      | cons c after =>
        obtain rfl : c = '\n' := h.ends c (by simp)
        have : byte < Text.size before + Text.size left + 1 := hv '\n' (by simp)
        omega
  · rw [hline, count_append_of_notMem hleft]

end ContextFree
