import ContextFree.Proofs.Excerpt

/-! The rows of an excerpt mark what the span covers, each byte under one row, but not what ends a
line. -/
namespace ContextFree

variable {cs before line after : List Char} {source : String} {span : Span} {n byte : Nat}

namespace Text

/-- Byte `n` is a line feed, or a carriage return directly before one or at the end of the text. -/
def TerminatesLine (cs : List Char) (n : Nat) : Prop :=
  char? cs n = some '\n' ∨
    char? cs n = some '\r' ∧ (char? cs (n + 1) = some '\n' ∨ n + 1 = size cs)

instance : Decidable (TerminatesLine cs n) :=
  inferInstanceAs (Decidable (_ ∨ _))

end Text

open Excerpt Text

/-- What is shown of a line does not end it. -/
theorem IsLine.not_terminatesLine (h : IsLine before line after) (hs : before ++ (line ++ after) = cs)
    (hb : size before ≤ n) (hn : n < size before + size (trimReturn line)) : ¬ TerminatesLine cs n := by
  obtain ⟨ret, hret⟩ := exists_trimReturn line
  have hs' : before ++ (trimReturn line ++ (ret ++ after)) = cs := by
    rw [← List.append_assoc _ ret, hret, hs]
  have hfeed := notMem_trimReturn h
  rintro (hc | ⟨hc, hnext⟩)
  · obtain ⟨u, v, ht, -, -⟩ := exists_append_of_char? hs' hc rfl hb hn
    exact hfeed (by simp [ht])
  · obtain ⟨u, v, ht, hchar, hsize⟩ := exists_append_of_char? hs' hc rfl hb hn
    rw [hchar] at hnext
    cases v with
    | cons d v =>
      -- More of the line follows the carriage return.
      have hd := d.utf8Size_pos
      rcases hnext with hnext | hnext
      · obtain rfl : d = '\n' := by simpa using hnext
        exact hfeed (by simp [ht])
      · rw [size] at hsize
        omega
    | nil =>
      -- The line is shown with a carriage return at its end, so another one was cut off.
      rcases trimReturn_spec line with hl | ⟨hl, hlast⟩
      · obtain rfl : ret = ['\r'] := List.append_cancel_left (hret.trans hl)
        rcases hnext with hnext | hnext
        · simp at hnext
        · have : size ('\r' :: after) = 1 + size after := rfl
          rw [List.singleton_append, this] at hsize
          omega
      · rw [hl, ht] at hlast
        simp at hlast

/-- The carriage return that is not shown ends a line, and so does the line feed behind it. -/
theorem IsLine.terminatesLine (h : IsLine before line after) (hs : before ++ (line ++ after) = cs)
    (hb : size before + size (trimReturn line) ≤ n) (hn : n ≤ size before + size line)
    (hlt : n < size cs) : TerminatesLine cs n := by
  have hafter : after = [] ∨ after.head? = some '\n' := by
    cases after with
    | nil => exact .inl rfl
    | cons c after => exact .inr (congrArg some (h.ends c (by simp)))
  have hend : char? cs (size before + size line) = after.head? := by
    rw [← hs, ← List.append_assoc, ← size_append, char?_append]
  have hsize : size cs = size before + size line + size after := by
    rw [← hs, size_append, size_append, Nat.add_assoc]
  have hspec := trimReturn_spec line
  generalize trimReturn line = shown at hb hspec
  rcases Nat.lt_or_eq_of_le hn with hn | rfl
  · rcases hspec with rfl | ⟨rfl, -⟩
    · -- Only the carriage return is left between what is shown and the end of the line.
      have hline : size (shown ++ ['\r']) = size shown + 1 := size_append ..
      obtain rfl : n = size before + size shown := by omega
      have hreturn : char? cs (size before + size shown) = some '\r' := by
        have hs' : (before ++ shown) ++ ('\r' :: after) = cs := by simpa using hs
        rw [← hs', ← size_append, char?_append]
        rfl
      rw [hline, ← Nat.add_assoc] at hend hsize
      right
      refine ⟨hreturn, ?_⟩
      rcases hafter with rfl | ha
      · exact .inr hsize.symm
      · exact .inl (hend.trans ha)
    · omega
  · left
    rcases hafter with rfl | ha
    · rw [size] at hsize
      omega
    · rw [hend, ha]

namespace Excerpt

variable {row row' : Row} {rs : List Row} {first last : Nat}

def Row.Marks (row : Row) (byte : Nat) : Prop :=
  row.markStart ≤ byte ∧ byte < row.markStop

theorem IsRow.marks_iff (h : IsRow source span before line after row) :
    row.Marks byte ↔ (span.start ≤ byte ∧ byte < span.stop) ∧
      size before ≤ byte ∧ byte < size before + size (trimReturn line) := by
  rw [Row.Marks, h.markStop_eq, h.markStart_eq]
  omega

theorem IsRow.not_terminatesLine (h : IsRow source span before line after row) (hm : row.Marks byte) :
    ¬ TerminatesLine source.toList byte := by
  obtain ⟨-, hb, hn⟩ := h.marks_iff.1 hm
  exact h.isLine.not_terminatesLine h.source_eq hb hn

theorem IsRow.not_marks_of_lt {b l a : List Char} (h : IsRow source span before line after row)
    (k : IsRow source span b l a row') (hlt : row.number < row'.number) (hm : row.Marks byte) :
    ¬ row'.Marks byte := by
  rw [h.number_eq, k.number_eq] at hlt
  have hbehind := h.isLine.size_lt (h.source_eq.trans k.source_eq.symm) (Nat.lt_of_succ_lt_succ hlt)
  obtain ⟨ret, hret⟩ := exists_trimReturn line
  have hshown : size (trimReturn line) ≤ size line := by
    rw [← hret, size_append, hret]
    omega
  intro hm'
  have := h.marks_iff.1 hm
  have := k.marks_iff.1 hm'
  omega

theorem AreRows.exists_marks (h : AreRows source span first last rs)
    (hstop : span.stop ≤ size source.toList) (hstart : span.start ≤ byte) (hb : byte < span.stop)
    (he : ¬ TerminatesLine source.toList byte) : ∃ row ∈ rs, row.Marks byte := by
  have hlt := Nat.lt_of_lt_of_le hb hstop
  obtain ⟨before, line, after, hs, hline, hfrom, hto, hnumber⟩ :=
    exists_line_of_le (Nat.le_of_lt hlt)
  -- The line of the byte is one of those that have rows.
  have hmem : before.count '\n' + 1 ∈ rs.map Row.number := by
    have := LineIndex.line?_mono hstart h.line?_start hnumber
    have := LineIndex.line?_mono (Span.le_last hb) hnumber h.line?_last
    rw [h.numbers_eq, List.mem_range'_1]
    omega
  obtain ⟨row, hrow, hn⟩ := List.mem_map.1 hmem
  obtain ⟨b, l, a, hr⟩ := h.isRow row hrow
  obtain ⟨rfl, rfl, rfl⟩ := hr.eq_of_number_eq hline hs hn
  have hshown : byte < size b + size (trimReturn l) := by
    apply Nat.lt_of_not_le
    intro hle
    exact he (hline.terminatesLine hs hle hto hlt)
  exact ⟨row, hrow, hr.marks_iff.2 ⟨⟨hstart, hb⟩, hfrom, hshown⟩⟩

theorem AreRows.exists_marks_iff (h : AreRows source span first last rs)
    (hstop : span.stop ≤ size source.toList) :
    (∃ row ∈ rs, row.Marks byte) ↔
      (span.start ≤ byte ∧ byte < span.stop) ∧ ¬ TerminatesLine source.toList byte := by
  constructor
  · rintro ⟨row, hrow, hm⟩
    obtain ⟨_, _, _, hr⟩ := h.isRow row hrow
    exact ⟨(hr.marks_iff.1 hm).1, hr.not_terminatesLine hm⟩
  · rintro ⟨⟨hstart, hb⟩, he⟩
    exact h.exists_marks hstop hstart hb he

theorem AreRows.pairwise_not_marks (h : AreRows source span first last rs) :
    rs.Pairwise fun row row' => ∀ byte, ¬ (row.Marks byte ∧ row'.Marks byte) := by
  have hlt : rs.Pairwise fun row row' => row.number < row'.number := by
    rw [← List.pairwise_map (f := Row.number), h.numbers_eq]
    exact List.pairwise_lt_range'
  refine hlt.imp_of_mem fun hrow hrow' hn byte hm => ?_
  obtain ⟨_, _, _, hr⟩ := h.isRow _ hrow
  obtain ⟨_, _, _, hr'⟩ := h.isRow _ hrow'
  exact hr.not_marks_of_lt hr' hn hm.1 hm.2

theorem IsRow.markStop_le (h : IsRow source span before line after row)
    (hstop : span.stop ≤ size source.toList) : row.markStop ≤ size source.toList := by
  have := span.start_le_stop
  have hsize : size source.toList = size before + size (line ++ after) := by
    rw [← h.source_eq, size_append]
  rw [h.markStop_eq, h.markStart_eq]
  omega

theorem IsRow.marked_eq_empty (h : IsRow source span before line after row)
    (he : row.markStart = row.markStop) : row.marked = "" := by
  have hm := h.marked_eq
  rw [← he, Text.slice] at hm
  split at hm
  · next cs hcs =>
    obtain ⟨b, a, -, hb, hsize⟩ := slice?_eq_some_iff.1 hcs
    obtain rfl : cs = [] := eq_nil_of_size_eq_zero (by omega)
    exact (Except.ok.inj hm).symm
  · cases hm

theorem underline_of_marked_eq_empty {width : String → Nat} (hw : width "" ≤ 1) (mark : Char)
    (he : row.marked = "") : row.underline width mark =
      .ofList (.replicate (width row.lead + (toString row.number).length + 2) ' ' ++ [mark]) := by
  rw [Row.underline, he, Nat.max_eq_right hw]
  rfl

/-- Each row marks a range of bytes of its own, from the start of the span or of the line on. Together
the rows mark just the bytes of the span that do not end a line. However the widths of texts are
measured, there are as many marks under a row as the width of its range, but at least one. Under a row
without a range there is just one if the empty text has at most the width 1, as `Text.width` gives it. -/
theorem marks_cover_span {source : String} {span : Span} (h : span.fits source = true) :
    ∃ rs, rows source span = .ok rs ∧
      rs.Pairwise (fun row row' => ∀ byte, ¬ (row.Marks byte ∧ row'.Marks byte)) ∧
      (∀ row ∈ rs, row.markStop ≤ source.utf8ByteSize ∧
        Text.slice source row.markStart row.markStop = .ok row.marked) ∧
      (∀ byte, (∃ row ∈ rs, row.Marks byte) ↔
        (span.start ≤ byte ∧ byte < span.stop) ∧ ¬ TerminatesLine source.toList byte) ∧
      (∀ row ∈ rs, ∃ start stop,
        (LineIndex.ofSource source).bounds? row.number = some (start, stop) ∧
        row.markStart = max span.start start ∧
        Text.slice source start row.markStart = .ok row.lead) ∧
      (∀ width mark message, render width mark message rs =
        "\n".intercalate (rs.map fun row =>
          toString row.number ++ "| " ++ row.text ++ "\n" ++ .ofList
            (.replicate (width row.lead + (toString row.number).length + 2) ' ' ++
              .replicate (max (width row.marked) 1) mark)) ++ " " ++ message) ∧
      (∀ width : String → Nat, width "" ≤ 1 → ∀ mark, ∀ row ∈ rs, row.markStart = row.markStop →
        row.underline width mark = .ofList
          (.replicate (width row.lead + (toString row.number).length + 2) ' ' ++ [mark])) ∧
      Text.width "" = 0 ∧
      ∀ path message mark, (SourceFile.mk source path).excerpt span message mark =
        .ok (render Text.width mark message rs) := by
  obtain ⟨first, last, rs, hrs, hrows⟩ := exists_rows h
  have hstop : span.stop ≤ size source.toList := by
    rw [size_toList]
    exact (Span.fits_iff_isValid.1 h).1
  refine ⟨rs, hrs, hrows.pairwise_not_marks, fun row hrow => ?_,
    fun byte => hrows.exists_marks_iff hstop, fun row hrow => ?_, fun _ _ _ => rfl,
    fun width hw mark row hrow he => ?_, rfl, fun path message mark => ?_⟩
  · obtain ⟨_, _, _, hr⟩ := hrows.isRow row hrow
    exact ⟨size_toList source ▸ hr.markStop_le hstop, hr.marked_eq⟩
  · obtain ⟨_, _, _, hr⟩ := hrows.isRow row hrow
    exact ⟨_, _, hr.bounds?, hr.markStart_eq, hr.lead_eq⟩
  · obtain ⟨_, _, _, hr⟩ := hrows.isRow row hrow
    exact underline_of_marked_eq_empty hw mark (hr.marked_eq_empty he)
  · rw [SourceFile.excerpt, hrs]
    rfl

/-- Of the bytes from 1 to 5 only the letter is marked: the others are a carriage return before a line
feed, and two line feeds. The row of the blank line has no range, and one mark. -/
theorem marks_cover_span_to_blank :
    let source := "ab\r\n\ncd"
    let span : Span := ⟨1, 5, by decide⟩
    let blank : Row := ⟨2, "", 4, 4, "", ""⟩
    span.fits source = true ∧ ∃ rs, rows source span = .ok rs ∧
      (∀ byte, (∃ row ∈ rs, row.Marks byte) ↔ byte = 1) ∧
      blank ∈ rs ∧ Text.width "" ≤ 1 ∧ blank.underline Text.width '^' = "   ^" := by
  intro source span blank
  have hfits : span.fits source = true := by decide
  obtain ⟨rs, hrs, -, -, hmarks, -, -, hone, hwidth, -⟩ := marks_cover_span hfits
  have hblank : blank ∈ rs := by
    have hrows : rows "ab\r\n\ncd" ⟨1, 5, by decide⟩ =
        .ok [⟨1, "ab", 1, 2, "a", "b"⟩, ⟨2, "", 4, 4, "", ""⟩] := by
      rfl
    obtain rfl := Except.ok.inj (hrs.symm.trans hrows)
    exact List.mem_cons_of_mem _ List.mem_cons_self
  have hw : Text.width "" ≤ 1 := hwidth ▸ Nat.zero_le 1
  have hprinted : String.ofList
      (.replicate (Text.width "" + (toString 2).length + 2) ' ' ++ ['^']) = "   ^" := by
    rfl
  have hspan : ∀ byte < 5, 1 ≤ byte → ¬ TerminatesLine source.toList byte → byte = 1 := by decide
  have hletter : ¬ TerminatesLine source.toList 1 := by decide
  refine ⟨hfits, rs, hrs, fun byte => (hmarks byte).trans ⟨fun hb => ?_, ?_⟩, hblank, hw, ?_⟩
  · exact hspan byte hb.1.2 hb.1.1 hb.2
  · rintro rfl
    exact ⟨by decide, hletter⟩
  · exact (hone Text.width hw '^' blank hblank rfl).trans hprinted

end Excerpt

end ContextFree
