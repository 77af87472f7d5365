import ContextFree.Proofs.Lines
import ContextFree.Source.Report

/-! The rows of an excerpt are the lines that the span touches, in order and each under its own
number. -/
namespace ContextFree

variable {cs before line after : List Char} {source : String} {span : Span}

theorem Text.isBoundary_max {m n : Nat} (hm : isBoundary cs m = true)
    (hn : isBoundary cs n = true) : isBoundary cs (max m n) = true := by
  rw [Nat.max_def]
  split <;> assumption

theorem Text.isBoundary_min {m n : Nat} (hm : isBoundary cs m = true)
    (hn : isBoundary cs n = true) : isBoundary cs (min m n) = true := by
  rw [Nat.min_def]
  split <;> assumption

/-- The lines that a span touches are one piece of the text. -/
theorem LineIndex.exists_cover (h : span.stop ≤ Text.size source.toList) :
    ∃ before piece after, before ++ (piece ++ after) = source.toList ∧
      (∀ c ∈ before.getLast?, c = '\n') ∧ (∀ c ∈ after.head?, c = '\n') ∧
      (ofSource source).line? span.start = some (before.count '\n' + 1) ∧
      (ofSource source).line? span.last = some (before.count '\n' + piece.count '\n' + 1) ∧
      (ofSource source).cover span =
        .ok (Text.size before, Text.size before + Text.size piece) := by
  have hlast := span.last_le_stop
  obtain ⟨b, l, a, hs, hl, hb, -, hline⟩ :=
    exists_line_of_le (Nat.le_trans span.start_le_stop h)
  obtain ⟨d, m, e, ht, hm, -, hd, hlineLast⟩ := exists_line_of_le (Nat.le_trans hlast h)
  -- The first line starts before the last one ends, so all between is a piece of the text.
  have hsize : Text.size b ≤ Text.size (d ++ m) := by
    have := span.start_le_last
    rw [Text.size_append]
    omega
  obtain ⟨piece, hp, he⟩ := Text.exists_append_of_size_le
    (hs.trans (ht.symm.trans (List.append_assoc ..).symm)) hsize
  have hstop : Text.size d + Text.size m = Text.size b + Text.size piece := by
    rw [← Text.size_append, hp, Text.size_append]
  have hcount : d.count '\n' = b.count '\n' + piece.count '\n' := by
    rw [← List.count_append, ← hp, count_append_of_notMem hm.notMem]
  refine ⟨b, piece, e, by rw [← he, hs], hl.starts, hm.ends, hline, hcount ▸ hlineLast, ?_⟩
  apply cover_eq_ok h hline _ hlineLast
  · rw [bounds?_ofSource hm ht, hstop]
    rfl
  · rw [bounds?_ofSource hl hs]
    rfl

namespace Excerpt

variable {first last number : Nat} {row : Row} {rs : List Row}

/-- What is cut off the end of a line is at most one carriage return. -/
theorem trimReturn_spec (line : List Char) :
    line = trimReturn line ++ ['\r'] ∨ line = trimReturn line ∧ line.getLast? ≠ some '\r' := by
  rw [trimReturn]
  split
  · next h =>
    obtain ⟨ys, rfl⟩ := List.getLast?_eq_some_iff.1 h
    exact .inl (by rw [List.dropLast_concat])
  · next h => exact .inr ⟨rfl, h⟩

theorem exists_trimReturn (line : List Char) : ∃ rest, trimReturn line ++ rest = line := by
  rcases trimReturn_spec line with h | ⟨h, -⟩
  · exact ⟨['\r'], h.symm⟩
  · exact ⟨[], by rw [List.append_nil, ← h]⟩

theorem notMem_trimReturn (h : IsLine before line after) : '\n' ∉ trimReturn line := by
  obtain ⟨rest, hrest⟩ := exists_trimReturn line
  exact fun hm => h.notMem (hrest ▸ List.mem_append_left rest hm)

/-- The row shows the line that stands between `before` and `after` in the source. -/
structure IsRow (source : String) (span : Span) (before line after : List Char) (row : Row) :
    Prop where
  source_eq : before ++ (line ++ after) = source.toList
  isLine : IsLine before line after
  number_eq : row.number = before.count '\n' + 1
  text_eq : row.text = .ofList (trimReturn line)
  markStart_eq : row.markStart = max span.start (Text.size before)
  markStop_eq : row.markStop =
    max (min span.stop (Text.size before + Text.size (trimReturn line))) row.markStart
  lead_eq : Text.slice source (Text.size before) row.markStart = .ok row.lead
  marked_eq : Text.slice source row.markStart row.markStop = .ok row.marked

/-- A line starts on a boundary, and what is shown of it ends on one, so its marks cut nothing. -/
theorem exists_isRow (hfit : span.fits source = true) (h : IsLine before line after)
    (hs : before ++ (line ++ after) = source.toList) :
    ∃ row, IsRow source span before line after row := by
  obtain ⟨hstart, hstop⟩ := Span.fits_iff.1 hfit
  obtain ⟨ret, hret⟩ := exists_trimReturn line
  have hline : Text.isBoundary source.toList (Text.size before) = true := by
    rw [← hs]
    exact Text.isBoundary_append ..
  have hend : Text.isBoundary source.toList
      (Text.size before + Text.size (trimReturn line)) = true := by
    have hb := Text.isBoundary_append (before ++ trimReturn line) (ret ++ after)
    rw [Text.size_append, List.append_assoc, ← List.append_assoc _ ret, hret, hs] at hb
    exact hb
  have hfrom := Text.isBoundary_max hstart hline
  have hto := Text.isBoundary_max (Text.isBoundary_min hstop hend) hfrom
  obtain ⟨lead, hlead⟩ := Text.exists_slice (Nat.le_max_right ..) hline hfrom
  obtain ⟨marked, hmarked⟩ := Text.exists_slice (Nat.le_max_right ..) hfrom hto
  exact ⟨⟨_, _, _, _, lead, marked⟩, hs, h, rfl, rfl, rfl, rfl, hlead, hmarked⟩

theorem rowsFrom_cons (h : IsRow source span before line after row) (lines : List (List Char)) :
    rowsFrom source span (Text.size before) (before.count '\n' + 1) (line :: lines) =
      (rowsFrom source span (Text.size before + Text.size line + 1) (before.count '\n' + 1 + 1)
        lines).map (row :: ·) := by
  obtain ⟨number, text, markStart, markStop, lead, marked⟩ := row
  obtain ⟨-, -, hnumber, htext, hstart, hstop, hlead, hmarked⟩ := h
  simp only at hnumber htext hstart hstop hlead hmarked
  subst hnumber htext hstart hstop
  rw [rowsFrom]
  simp only [hlead, hmarked, bind, Except.bind]
  cases rowsFrom source span (Text.size before + Text.size line + 1) (before.count '\n' + 1 + 1)
    lines <;> rfl

/-- At each line its number and the place where it starts are known from the lines before it. -/
theorem exists_rowsFrom (hfit : span.fits source = true) {lines : List (List Char)}
    (hs : before ++ (['\n'].intercalate lines ++ after) = source.toList)
    (hb : ∀ c ∈ before.getLast?, c = '\n') (ha : ∀ c ∈ after.head?, c = '\n')
    (hl : ∀ l ∈ lines, '\n' ∉ l) :
    ∃ rs, rowsFrom source span (Text.size before) (before.count '\n' + 1) lines = .ok rs ∧
      rs.map Row.number = List.range' (before.count '\n' + 1) lines.length ∧
      ∀ r ∈ rs, ∃ before line after, IsRow source span before line after r := by
  induction lines generalizing before with
  | nil => exact ⟨[], rfl, rfl, by simp⟩
  | cons line lines ih =>
    have hline : '\n' ∉ line := hl line List.mem_cons_self
    cases lines with
    | nil =>
      have hs : before ++ (line ++ after) = source.toList := by simpa using hs
      obtain ⟨row, hrow⟩ := exists_isRow hfit ⟨hline, hb, ha⟩ hs
      exact ⟨[row], rowsFrom_cons hrow [], congrArg (fun n => [n]) hrow.number_eq,
        by simpa using ⟨_, _, _, hrow⟩⟩
    | cons next lines =>
      have hs : before ++ (line ++ '\n' :: (['\n'].intercalate (next :: lines) ++ after)) =
          source.toList := by
        simpa [List.intercalate_cons_cons] using hs
      obtain ⟨row, hrow⟩ := exists_isRow hfit ⟨hline, hb, by simp⟩ hs
      -- The next line stands behind this one and its line feed.
      have hsize := Text.size_append_lineFeed before line
      have hcount : (before ++ (line ++ ['\n'])).count '\n' = before.count '\n' + 1 :=
        count_append_lineFeed hline
      have hnext : (before ++ (line ++ ['\n'])) ++ (['\n'].intercalate (next :: lines) ++ after) =
          source.toList := by
        simpa using hs
      obtain ⟨rs, hrs, hnumbers, hrows⟩ :=
        ih hnext (by simp) fun l hm => hl l (List.mem_cons_of_mem _ hm)
      rw [hsize, hcount] at hrs
      rw [hcount] at hnumbers
      refine ⟨row :: rs, ?_, ?_, ?_⟩
      · rw [rowsFrom_cons hrow, hrs]
        rfl
      · rw [List.map_cons, hnumbers, hrow.number_eq]
        rfl
      · intro r hr
        rcases List.mem_cons.1 hr with rfl | hr
        · exact ⟨_, _, _, hrow⟩
        · exact hrows r hr

/-- The rows are the lines with the numbers from `first` to `last`, from the line of the first byte of
the span to that of the last byte that it covers. -/
structure AreRows (source : String) (span : Span) (first last : Nat) (rs : List Row) : Prop where
  line?_start : (LineIndex.ofSource source).line? span.start = some first
  line?_last : (LineIndex.ofSource source).line? span.last = some last
  first_le_last : first ≤ last
  numbers_eq : rs.map Row.number = List.range' first (last + 1 - first)
  isRow : ∀ r ∈ rs, ∃ before line after, IsRow source span before line after r

theorem exists_rows (h : span.fits source = true) :
    ∃ first last rs, rows source span = .ok rs ∧ AreRows source span first last rs := by
  have hstop : span.stop ≤ Text.size source.toList := by
    obtain ⟨u, v, hs, hu⟩ := Text.isBoundary_iff.1 (Span.fits_iff.1 h).2
    rw [← hs, ← hu, Text.size_append]
    omega
  obtain ⟨before, piece, after, hs, hb, ha, hfirst, hlast, hcover⟩ := LineIndex.exists_cover hstop
  have hlines : before ++ (['\n'].intercalate (piece.splitOn '\n') ++ after) = source.toList := by
    rw [List.intercalate_splitOn, hs]
  obtain ⟨rs, hrs, hnumbers, hrows⟩ :=
    exists_rowsFrom h hlines hb ha (notMem_of_mem_splitOn piece)
  have hline := LineIndex.line?_size hs
  refine ⟨_, _, rs, ?_, hfirst, hlast, by omega, ?_, hrows⟩
  · simp only [rows, h, Bool.not_true, Bool.false_eq_true, if_false, hcover, bind, Except.bind,
      Text.slice_append hs, hline, String.toList_ofList, hrs]
  · rw [hnumbers, length_splitOn]
    congr 1
    omega

/-- The number of a row tells which line it shows. -/
theorem IsRow.eq_of_number_eq {b l a : List Char} (h : IsRow source span before line after row)
    (hl : IsLine b l a) (hs : b ++ (l ++ a) = source.toList)
    (hn : row.number = b.count '\n' + 1) : before = b ∧ line = l ∧ after = a := by
  have hcount : before.count '\n' = b.count '\n' := by
    have := h.number_eq
    omega
  exact h.isLine.eq_of_count_eq hl h.source_eq hs hcount

theorem IsRow.bounds? (h : IsRow source span before line after row) :
    (LineIndex.ofSource source).bounds? row.number =
      some (Text.size before, Text.size before + Text.size line) := by
  rw [h.number_eq, LineIndex.bounds?_ofSource h.isLine h.source_eq]

theorem IsRow.slice (h : IsRow source span before line after row) :
    Text.slice source (Text.size before) (Text.size before + Text.size line) =
      .ok (.ofList line) :=
  Text.slice_append h.source_eq

theorem IsRow.text_spec (h : IsRow source span before line after row) :
    String.ofList line = row.text ++ "\r" ∨
      String.ofList line = row.text ∧ line.getLast? ≠ some '\r' := by
  rw [h.text_eq]
  rcases trimReturn_spec line with ht | ⟨ht, hlast⟩
  · exact .inl ((congrArg String.ofList ht).trans String.ofList_append)
  · exact .inr ⟨congrArg String.ofList ht, hlast⟩

def Row.underline (width : String → Nat) (mark : Char) (row : Row) : String :=
  .ofList (.replicate (width row.lead + (toString row.number).length + 2) ' ' ++
    .replicate (max (width row.marked) 1) mark)

theorem renderRow_eq (width : String → Nat) (mark : Char) (row : Row) :
    renderRow width mark row =
      toString row.number ++ "| " ++ row.text ++ "\n" ++ row.underline width mark :=
  rfl

theorem render_cons (width : String → Nat) (mark : Char) (message : String) (row : Row)
    (hrs : rs ≠ []) : render width mark message (row :: rs) =
      renderRow width mark row ++ "\n" ++ render width mark message rs := by
  rw [render, render, List.map_cons, String.intercalate_cons_of_ne_nil (by simpa using hrs)]
  simp only [String.append_assoc]

/-- The last row is the one with the last number, so each row says how it ends. -/
theorem render_eq_join (width : String → Nat) (mark : Char) (message : String) {n : Nat}
    (h : rs.map Row.number = List.range' first (n + 1)) :
    render width mark message rs = String.join (rs.map fun row =>
      renderRow width mark row ++ if row.number = first + n then " " ++ message else "\n") := by
  induction n generalizing first rs with
  | zero =>
    obtain ⟨row, rfl, hn⟩ : ∃ row, rs = [row] ∧ row.number = first := by
      simpa [List.map_eq_cons_iff] using h
    simp [render, hn, String.append_assoc]
  | succ n ih =>
    rw [List.range'_succ, List.map_eq_cons_iff] at h
    obtain ⟨row, rest, rfl, hn, hrest⟩ := h
    have hne : rest ≠ [] := by
      rintro rfl
      cases hrest
    have hlast : ¬ row.number = first + (n + 1) := by omega
    have hsum : first + 1 + n = first + (n + 1) := by omega
    rw [render_cons _ _ _ _ hne, ih hrest, List.map_cons, String.join_cons, if_neg hlast, hsum]

/-- One row for each line from that of the first byte of the span to that of the last byte that it
covers. The row has the number of the line and its text without the carriage return that may end it.
The number and the start of a line that the rows go by are those of the index. -/
theorem excerpt_touched_lines {source : String} {span : Span} (h : span.fits source = true) :
    let ix := LineIndex.ofSource source
    ∃ first last rs, ix.line? span.start = some first ∧ ix.line? span.last = some last ∧
      first ≤ last ∧ rows source span = .ok rs ∧
      rs.map Row.number = List.range' first (last + 1 - first) ∧
      (∀ row ∈ rs, ∃ start stop line, ix.bounds? row.number = some (start, stop) ∧
        Text.slice source start stop = .ok line ∧
        (line = row.text ++ "\r" ∨ line = row.text ∧ line.toList.getLast? ≠ some '\r') ∧
        row.markStart = max span.start start ∧
        Text.slice source start row.markStart = .ok row.lead) ∧
      ∀ path message mark, (SourceFile.mk source path).excerpt span message mark =
        .ok (String.join (rs.map fun row =>
          toString row.number ++ "| " ++ row.text ++ "\n" ++ row.underline Text.width mark ++
            if row.number = last then " " ++ message else "\n")) := by
  intro ix
  obtain ⟨first, last, rs, hrs, hrows⟩ := exists_rows h
  refine ⟨first, last, rs, hrows.line?_start, hrows.line?_last, hrows.first_le_last, hrs,
    hrows.numbers_eq, fun row hrow => ?_, fun path message mark => ?_⟩
  · obtain ⟨before, line, after, hr⟩ := hrows.isRow row hrow
    refine ⟨_, _, _, hr.bounds?, hr.slice, ?_, hr.markStart_eq, hr.lead_eq⟩
    simpa only [String.toList_ofList] using hr.text_spec
  · obtain ⟨n, rfl⟩ := Nat.exists_eq_add_of_le hrows.first_le_last
    have hnumbers := hrows.numbers_eq
    rw [Nat.add_assoc, Nat.add_sub_cancel_left] at hnumbers
    rw [SourceFile.excerpt, hrs]
    simp only [← renderRow_eq, ← render_eq_join Text.width mark message hnumbers]
    rfl

/-- The span ends behind the line feed of a blank line, and the line before ends with a carriage
return. -/
theorem excerpt_touched_lines_to_blank :
    let source := "ab\r\n\ncd"
    let span : Span := ⟨1, 5, by decide⟩
    span.fits source = true ∧ ∃ rs, rows source span = .ok rs ∧ rs.map Row.number = [1, 2] := by
  intro source span
  have hfits : span.fits source = true := by decide
  obtain ⟨first, last, rs, hfirst, hlast, -, hrs, hnumbers, -⟩ := excerpt_touched_lines hfits
  obtain rfl : 1 = first := Option.some.inj ((by decide : _ = some 1).symm.trans hfirst)
  obtain rfl : 2 = last := Option.some.inj ((by decide : _ = some 2).symm.trans hlast)
  exact ⟨hfits, rs, hrs, hnumbers⟩

end Excerpt

end ContextFree
