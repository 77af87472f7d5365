import ContextFree.Proofs.Excerpt
import ContextFree.Proofs.Positions
import ContextFree.Proofs.Unambiguity

/-! The column that a report names, and the blanks before its first mark, over sources of printable
ASCII. -/
namespace ContextFree

variable {cs before after left right u v : List Char} {c mark : Char} {k n : Nat}
  {source : String} {span : Span} {w : String → Nat}

namespace Text

def IsPrintable (c : Char) : Prop :=
  ' ' ≤ c ∧ c ≤ '~'

instance : Decidable (IsPrintable c) :=
  inferInstanceAs (Decidable (_ ∧ _))

/-- Printable characters, line feeds, and carriage returns directly before line feeds. -/
inductive IsAsciiText : List Char → Prop where
  | nil : IsAsciiText []
  | printable {c : Char} {cs : List Char} (hc : IsPrintable c) (rest : IsAsciiText cs) :
    IsAsciiText (c :: cs)
  | lineFeed {cs : List Char} (rest : IsAsciiText cs) : IsAsciiText ('\n' :: cs)
  | returnAndFeed {cs : List Char} (rest : IsAsciiText cs) : IsAsciiText ('\r' :: '\n' :: cs)

/-- Whether byte `n` stands between a carriage return and a line feed. -/
def splitsTerminator (cs : List Char) (n : Nat) : Bool :=
  char? cs (n - 1) = some '\r' && char? cs n = some '\n'

theorem IsPrintable.toNat_le (h : IsPrintable c) : c.toNat ≤ 0xA0 :=
  Nat.le_trans (Char.le_def.1 h.2) (by decide)

theorem not_isPrintable_return : ¬ IsPrintable '\r' := fun h =>
  absurd h.1 (by decide)

/-- What may stand at a place of such a text depends on the next character alone. -/
theorem IsAsciiText.at_append (h : IsAsciiText cs) (hs : u ++ c :: v = cs) :
    IsPrintable c ∨ c = '\n' ∨ c = '\r' ∧ v.head? = some '\n' := by
  induction h generalizing u with
  | nil => simp at hs
  | printable hd rest ih =>
    cases u with
    | nil =>
      obtain ⟨rfl, -⟩ := List.cons.inj hs
      exact .inl hd
    | cons => exact ih (List.cons.inj hs).2
  | lineFeed rest ih =>
    cases u with
    | nil => exact .inr (.inl (List.cons.inj hs).1)
    | cons => exact ih (List.cons.inj hs).2
  | returnAndFeed rest ih =>
    match u with
    | [] =>
      obtain ⟨rfl, rfl⟩ := List.cons.inj hs
      exact .inr (.inr ⟨rfl, rfl⟩)
    | [_] => exact .inr (.inl (List.cons.inj (List.cons.inj hs).2).1)
    | _ :: _ :: _ => exact ih (List.cons.inj (List.cons.inj hs).2).2

/-- Where a line is cut, all before the cut is printable, unless the cut splits its terminator. -/
theorem IsAsciiText.left_of_cut (h : IsAsciiText cs) (hs : before ++ (left ++ v) = cs)
    (hn : '\n' ∉ left) : (∀ c ∈ left, IsPrintable c) ∨
      ∃ l, left = l ++ ['\r'] ∧ (∀ c ∈ l, IsPrintable c) ∧ v.head? = some '\n' := by
  induction left generalizing before with
  | nil => exact .inl (by simp)
  | cons c left ih =>
    obtain ⟨hc, hl⟩ := not_or.1 (mt List.mem_cons.2 hn)
    have hs' : (before ++ [c]) ++ (left ++ v) = cs := by simpa using hs
    rcases h.at_append hs with hp | rfl | ⟨rfl, hnext⟩
    · rcases ih hs' hl with hall | ⟨l, rfl, hall, hv⟩
      · exact .inl (by simpa using ⟨hp, hall⟩)
      · exact .inr ⟨c :: l, rfl, by simpa using ⟨hp, hall⟩, hv⟩
    · exact absurd rfl hc
    · cases left with
      | nil => exact .inr ⟨[], rfl, by simp, hnext⟩
      | cons d left =>
        obtain rfl : d = '\n' := by simpa using hnext
        exact absurd List.mem_cons_self hl

theorem splitsTerminator_iff :
    splitsTerminator cs n = true ↔ ∃ u v, u ++ '\r' :: '\n' :: v = cs ∧ size u + 1 = n := by
  simp only [splitsTerminator, Bool.and_eq_true, decide_eq_true_eq]
  have hfeed (u w : List Char) : char? (u ++ '\r' :: w) (size u + 1) = w.head? := by
    have hsize : size (u ++ ['\r']) = size u + 1 := size_append ..
    rw [List.append_cons, ← hsize, char?_append]
  constructor
  · rintro ⟨hr, hf⟩
    cases n with
    | zero =>
      -- The two characters would be the same one.
      rw [Nat.zero_sub, hf] at hr
      simp at hr
    | succ n =>
      obtain ⟨u, w, rfl, rfl⟩ := char?_eq_some_iff.1 hr
      obtain ⟨v, rfl⟩ := List.head?_eq_some_iff.1 ((hfeed u w).symm.trans hf)
      exact ⟨u, v, rfl, rfl⟩
  · rintro ⟨u, v, rfl, rfl⟩
    exact ⟨char?_append u _, hfeed u _⟩

theorem measure_of_forall_le (h : ∀ c ∈ cs, c.toNat ≤ 0xA0) :
    measure cs = ((cs.length : Int), Follower.ofForm .none) := by
  induction cs with
  | nil => rfl
  | cons c cs ih =>
    rw [measure, ih fun d hd => h d (List.mem_cons_of_mem _ hd)]
    simp [cells, plainCells, Follower.ofForm, h c List.mem_cons_self]

theorem width_of_forall_le (h : ∀ c ∈ cs, c.toNat ≤ 0xA0) : width (.ofList cs) = cs.length := by
  rw [width, String.toList_ofList, measure_of_forall_le h, Int.toNat_natCast]

/-- A printable character takes one cell, and a carriage return behind printable ones takes `k`. -/
structure MeasuresAscii (width : String → Nat) (k : Nat) : Prop where
  printable : ∀ cs, (∀ c ∈ cs, IsPrintable c) → width (.ofList cs) = cs.length
  carriageReturn : ∀ cs, (∀ c ∈ cs, IsPrintable c) → width (.ofList (cs ++ ['\r'])) = cs.length + k

theorem measuresAscii_width : MeasuresAscii width 1 where
  printable _ h := width_of_forall_le fun c hc => (h c hc).toNat_le
  carriageReturn cs h := by
    rw [width_of_forall_le, List.length_append, List.length_singleton]
    intro c hc
    rcases List.mem_append.1 hc with hc | hc
    · exact (h c hc).toNat_le
    · obtain rfl := List.mem_singleton.1 hc
      decide

/-- A measure that gives a carriage return no cell. -/
theorem measuresAscii_countP : MeasuresAscii (fun s => s.toList.countP (· ≠ '\r')) 0 := by
  have hcount : ∀ cs : List Char, (∀ c ∈ cs, IsPrintable c) →
      cs.countP (· ≠ '\r') = cs.length := by
    intro cs h
    refine List.countP_eq_length.2 fun c hc => decide_eq_true ?_
    rintro rfl
    exact not_isPrintable_return (h _ hc)
  refine ⟨fun cs h => ?_, fun cs h => ?_⟩
  · simp only [String.toList_ofList, hcount cs h]
  · simp only [String.toList_ofList, List.countP_append, hcount cs h]
    rfl

end Text

namespace LineIndex

theorem columns_of_notMem (h : '\r' ∉ cs) : columns after cs = cs.length := by
  induction cs with
  | nil => rfl
  | cons c cs ih =>
    obtain ⟨hc, hcs⟩ := not_or.1 (mt List.mem_cons.2 h)
    rw [columns, ih hcs, List.length_cons, Nat.add_comm]
    simp [Ne.symm hc]

theorem columns_concat_return (h : '\r' ∉ cs) (ha : after.head? = some '\n') :
    columns after (cs ++ ['\r']) = cs.length := by
  induction cs with
  | nil => simp [columns, ha]
  | cons c cs ih =>
    obtain ⟨hc, hcs⟩ := not_or.1 (mt List.mem_cons.2 h)
    rw [List.cons_append, columns, ih hcs, List.length_cons, Nat.add_comm]
    simp [Ne.symm hc]

theorem position?_of_isLine (h : IsLine before (left ++ right) after)
    (hs : before ++ (left ++ (right ++ after)) = source.toList) :
    (ofSource source).position? source (Text.size (before ++ left)) =
      .ok (some (before.count '\n' + 1, 1 + columns (right ++ after) left)) := by
  have hl : '\n' ∉ left := h.notMem_left
  rw [position?_append ((List.append_assoc ..).trans hs), Scanner.advanceAll_append,
    Scanner.advanceAll_eq h.starts, Scanner.advanceAll_of_notMem hl]

end LineIndex

open Text Excerpt

/-- Before a cut on a line there are as many cells as columns, and `k` more for the carriage return if
the cut splits the terminator. -/
theorem width_left (hw : MeasuresAscii w k) (h : IsAsciiText cs)
    (hs : before ++ (left ++ v) = cs) (hb : ∀ c ∈ before.getLast?, c = '\n') (hn : '\n' ∉ left) :
    w (.ofList left) = LineIndex.columns v left +
      if splitsTerminator cs (size (before ++ left)) then k else 0 := by
  rcases h.left_of_cut hs hn with hall | ⟨l, rfl, hall, hv⟩
  · have hsplits : splitsTerminator cs (size (before ++ left)) = false := by
      rw [Bool.eq_false_iff, ne_eq, splitsTerminator_iff]
      rintro ⟨u, e, hu, hsize⟩
      have hcut : (u ++ ['\r']) ++ '\n' :: e = (before ++ left) ++ v := by simpa [hs] using hu
      obtain ⟨hl, -⟩ := append_inj_of_size_eq hcut ((size_append ..).trans hsize)
      -- The carriage return would be the last character before the cut.
      rcases List.eq_nil_or_concat left with rfl | ⟨l, c, rfl⟩
      · rw [List.append_nil] at hl
        exact absurd (hb '\r' (by simp [← hl])) (by decide)
      · rw [List.concat_eq_append, ← List.append_assoc] at hl
        obtain ⟨-, hc⟩ := List.append_inj' hl rfl
        obtain rfl := List.singleton_inj.1 hc
        exact not_isPrintable_return (hall '\r' (by simp))
    have hr : '\r' ∉ left := fun hm => not_isPrintable_return (hall _ hm)
    rw [hw.printable left hall, LineIndex.columns_of_notMem hr, hsplits]
    rfl
  · have hsplits : splitsTerminator cs (size (before ++ (l ++ ['\r']))) = true := by
      obtain ⟨e, rfl⟩ := List.head?_eq_some_iff.1 hv
      refine splitsTerminator_iff.2 ⟨before ++ l, e, by simpa using hs, ?_⟩
      rw [← List.append_assoc, size_append (before ++ l)]
      rfl
    have hr : '\r' ∉ l := fun hm => not_isPrintable_return (hall _ hm)
    rw [hw.carriageReturn l hall, LineIndex.columns_concat_return hr hv, hsplits]
    rfl

namespace Excerpt

variable {row : Row} {rs : List Row} {first last : Nat}

/-- The excerpt begins with the row of the line `line`, and `blanks` blanks stand before its first
mark. -/
def Begins (line blanks : Nat) (mark : Char) (excerpt : String) : Prop :=
  ∃ text rest, '\n' ∉ text.toList ∧ excerpt =
    toString line ++ "| " ++ text ++ "\n" ++ .ofList (.replicate blanks ' ') ++ .singleton mark ++ rest

theorem Begins.blanks_inj {line : Nat} {excerpt : String} (hm : mark ≠ ' ')
    (h : Begins line n mark excerpt) (h' : Begins line k mark excerpt) : n = k := by
  obtain ⟨text, rest, htext, rfl⟩ := h
  obtain ⟨text', rest', htext', hsame⟩ := h'
  have hlist := congrArg String.toList hsame
  simp only [String.append_assoc, String.toList_append, List.append_cancel_left_eq,
    String.toList_singleton, String.toList_ofList] at hlist
  obtain ⟨-, hrow⟩ := append_cons_inj htext htext' hlist
  have hblank (m : Nat) : mark ∉ List.replicate m ' ' := fun hmem => hm (List.eq_of_mem_replicate hmem)
  obtain ⟨hblanks, -⟩ := append_cons_inj (hblank n) (hblank k) hrow
  simpa using congrArg List.length hblanks

theorem AreRows.exists_cons (h : AreRows source span first last rs) :
    ∃ row rest, rs = row :: rest ∧ row.number = first := by
  obtain ⟨n, rfl⟩ := Nat.exists_eq_add_of_le h.first_le_last
  have hnumbers := h.numbers_eq
  rw [Nat.add_assoc, Nat.add_sub_cancel_left, List.range'_succ, List.map_eq_cons_iff] at hnumbers
  obtain ⟨row, rest, hrs, hn, -⟩ := hnumbers
  exact ⟨row, rest, hrs, hn⟩

theorem begins_render (w : String → Nat) (mark : Char) (message : String) (row : Row) (rs : List Row)
    (hn : '\n' ∉ row.text.toList) :
    Begins row.number (w row.lead + (toString row.number).length + 2) mark
      (render w mark message (row :: rs)) := by
  have htail : ∃ rest, render w mark message (row :: rs) = renderRow w mark row ++ rest := by
    cases rs with
    | nil => exact ⟨" " ++ message, by simp [render, String.append_assoc]⟩
    | cons next rs =>
      exact ⟨_, (render_cons w mark message row (List.cons_ne_nil next rs)).trans
        (String.append_assoc ..)⟩
  obtain ⟨rest, hrest⟩ := htail
  obtain ⟨m, hm⟩ := Nat.exists_eq_add_of_le' (Nat.le_max_right (w row.marked) 1)
  have hmarks : String.ofList (.replicate (m + 1) mark) =
      .singleton mark ++ .ofList (.replicate m mark) := by
    rw [List.replicate_succ, String.ofList_cons]
  refine ⟨row.text, .ofList (.replicate m mark) ++ rest, hn, ?_⟩
  rw [hrest, renderRow_eq, Row.underline, hm, String.ofList_append, hmarks]
  simp only [String.append_assoc]

/-- The first row is that of the line on which the span starts, and before its marks stands what
comes before the span on that line. -/
theorem exists_first_row (h : span.fits source = true) :
    ∃ before left right after row rest, IsLine before (left ++ right) after ∧
      before ++ (left ++ (right ++ after)) = source.toList ∧ size (before ++ left) = span.start ∧
      rows source span = .ok (row :: rest) ∧ row.number = before.count '\n' + 1 ∧
      row.lead = .ofList left ∧ '\n' ∉ row.text.toList := by
  obtain ⟨first, last, rs, hrs, hrows⟩ := exists_rows h
  obtain ⟨row, rest, rfl, hnumber⟩ := hrows.exists_cons
  obtain ⟨before, line, after, hrow⟩ := hrows.isRow row List.mem_cons_self
  obtain ⟨u, v, hs, hu⟩ := Text.isBoundary_iff.1 (Span.fits_iff.1 h).1
  have hfirst := LineIndex.line?_size hs
  rw [hu, hrows.line?_start, Option.some.injEq] at hfirst
  obtain ⟨b, left, right, a, rfl, rfl, hline⟩ := exists_isLine u v
  have hs' : b ++ ((left ++ right) ++ a) = source.toList := by simpa using hs
  have hleft : '\n' ∉ left := hline.notMem_left
  have hn : row.number = b.count '\n' + 1 := by
    rw [hnumber, hfirst, count_append_of_notMem hleft]
  obtain ⟨rfl, rfl, rfl⟩ := hrow.eq_of_number_eq hline hs' hn
  have hcut : before ++ (left ++ (right ++ after)) = source.toList := by simpa using hs'
  have hstart : row.markStart = size before + size left := by
    rw [hrow.markStart_eq, ← hu, size_append]
    omega
  have hlead : row.lead = .ofList left := by
    have hslice := hrow.lead_eq
    rw [hstart, Text.slice_append hcut] at hslice
    exact (Except.ok.inj hslice).symm
  have htext : '\n' ∉ row.text.toList := by
    rw [hrow.text_eq, String.toList_ofList]
    exact notMem_trimReturn hline
  exact ⟨before, left, right, after, row, rest, hline, hcut, hu, hrs, hn, hlead, htext⟩

/-- Line and column of the start of the span say where the first mark of an excerpt is. -/
theorem exists_position_begins (h : span.fits source = true) (hp : IsAsciiText source.toList) :
    ∃ line column rs,
      (LineIndex.ofSource source).position? source span.start = .ok (some (line, column)) ∧
      rows source span = .ok rs ∧
      ∀ w k, MeasuresAscii w k → ∀ mark message,
        Begins line ((toString line).length + 2 + (column - 1) +
          if splitsTerminator source.toList span.start then k else 0) mark
          (render w mark message rs) := by
  obtain ⟨before, left, right, after, row, rest, hline, hs, hstart, hrs, hnumber, hlead, htext⟩ :=
    exists_first_row h
  have hleft : '\n' ∉ left := hline.notMem_left
  refine ⟨_, _, _, hstart ▸ LineIndex.position?_of_isLine hline hs, hrs, fun w k hw mark message => ?_⟩
  have hbegins := begins_render w mark message row rest htext
  rw [hlead, width_left hw hp hs hline.starts hleft, hstart, hnumber] at hbegins
  have hsum : ∀ i j m : Nat, i + 2 + j + m = j + m + i + 2 := by omega
  rw [Nat.add_sub_cancel_left, hsum]
  exact hbegins

end Excerpt

namespace SourceFile

theorem located_eq {f : SourceFile} {line column : Nat}
    (h : f.index.position? f.text span.start = .ok (some (line, column))) (message : String) :
    f.located message (some span) = .ok (message ++ " at " ++ f.path.elim "" (· ++ ":") ++
      toString line ++ ":" ++ toString column) := by
  simp only [located, h]
  cases f.path <;> rfl

/-- The header of a report names the line of the first row of its excerpt. The blanks before the first
mark are those of the number of the line, two more and one for each column before the span, and still
one more where the span starts between a carriage return and a line feed: the carriage return takes a
cell but no column. Under a measure that gives it no cell there would be no such exception. -/
theorem report_aligned {f : SourceFile} {e : SyntaxError} (hf : f.text = e.source)
    (hp : IsAsciiText e.source.toList) :
    ∃ line column excerpt,
      f.index.position? f.text e.span.start = .ok (some (line, column)) ∧
      f.report e = .ok (e.kind.reason ++ " at " ++ f.path.elim "" (· ++ ":") ++ toString line ++ ":" ++
        toString column ++ e.expectation ++ "\n" ++ excerpt) ∧
      Begins line ((toString line).length + 2 + (column - 1) +
        if splitsTerminator e.source.toList e.span.start then 1 else 0) '^' excerpt ∧
      ∃ rs, rows e.source e.span = .ok rs ∧ ∀ w, MeasuresAscii w 0 → ∀ mark message,
        Begins line ((toString line).length + 2 + (column - 1)) mark (render w mark message rs) := by
  obtain ⟨line, column, rs, hposition, hrs, hbegins⟩ := exists_position_begins e.fits hp
  have hposition : f.index.position? f.text e.span.start = .ok (some (line, column)) := by
    rw [index, hf, hposition]
  refine ⟨line, column, render width '^' e.kind.reason rs, hposition, ?_,
    hbegins width 1 measuresAscii_width '^' e.kind.reason, rs, hrs, fun w hw mark message => ?_⟩
  · rw [report]
    simp only [hf, ne_eq, not_true_eq_false, if_false, located_eq hposition, excerpt, hrs]
    rfl
  · simpa only [ite_self, Nat.add_zero] using hbegins w 0 hw mark message

/-- The span that starts at byte 2 starts on the carriage return, and the one that starts at byte 3
behind it, both in the third column. -/
theorem report_aligned_at_terminator :
    let f : SourceFile := ⟨"ab\r\ncd", none⟩
    let e : SyntaxError := ⟨⟨2, 5, by decide⟩, .unknownToken, [], "ab\r\ncd", by decide⟩
    let behind : SyntaxError := ⟨⟨3, 5, by decide⟩, .unknownToken, [], "ab\r\ncd", by decide⟩
    let w (s : String) := s.toList.countP (· ≠ '\r')
    IsAsciiText f.text.toList ∧ MeasuresAscii w 0 ∧
      (∃ excerpt, f.report e = .ok ("Unknown token at 1:3\n" ++ excerpt) ∧
        Begins 1 5 '^' excerpt) ∧
      (∃ excerpt, f.report behind = .ok ("Unknown token at 1:3\n" ++ excerpt) ∧
        Begins 1 6 '^' excerpt) ∧
      ∃ rs, rows e.source e.span = .ok rs ∧ Begins 1 5 '^' (render w '^' "here" rs) := by
  intro f e behind w
  have hp : IsAsciiText f.text.toList := by
    have htext : f.text.toList = ['a', 'b', '\r', '\n', 'c', 'd'] := by decide
    rw [htext]
    exact .printable (by decide) (.printable (by decide) (.returnAndFeed
      (.printable (by decide) (.printable (by decide) .nil))))
  have hheader : SyntaxErrorKind.unknownToken.reason ++ " at " ++
      (none : Option String).elim "" (· ++ ":") ++ toString 1 ++ ":" ++ toString 3 ++
      e.expectation ++ "\n" = "Unknown token at 1:3\n" :=
    rfl
  have hone : (toString 1).length = 1 := rfl
  obtain ⟨line, column, excerpt, hposition, hreport, hbegins, rs, hrs, hmeasure⟩ :=
    report_aligned (f := f) (e := e) rfl hp
  obtain ⟨rfl, rfl⟩ : 1 = line ∧ 3 = column := by
    have hat : (LineIndex.ofSource "ab\r\ncd").position? "ab\r\ncd" 2 = .ok (some (1, 3)) := by rfl
    simpa using hat.symm.trans hposition
  obtain ⟨line', column', excerpt', hposition', hreport', hbegins', -⟩ :=
    report_aligned (f := f) (e := behind) rfl hp
  obtain ⟨rfl, rfl⟩ : 1 = line' ∧ 3 = column' := by
    have hat : (LineIndex.ofSource "ab\r\ncd").position? "ab\r\ncd" 3 = .ok (some (1, 3)) := by rfl
    simpa using hat.symm.trans hposition'
  have hon : splitsTerminator e.source.toList e.span.start = false := by decide
  have hbehind : splitsTerminator behind.source.toList behind.span.start = true := by decide
  rw [hone, hon] at hbegins
  rw [hone, hbehind] at hbegins'
  refine ⟨hp, measuresAscii_countP, ⟨excerpt, ?_, hbegins⟩, ⟨excerpt', ?_, hbegins'⟩, rs, hrs, ?_⟩
  · rw [hreport, ← hheader]
  · rw [hreport', ← hheader]
    rfl
  · have hmark := hmeasure w measuresAscii_countP '^' "here"
    rwa [hone] at hmark

/-- The column alone does not tell where the first mark is. Here the span starts behind the carriage
return, in the second column, and there are five blanks before its mark, not four. -/
theorem not_forall_aligned_by_column :
    ¬ ∀ (f : SourceFile) (e : SyntaxError), f.text = e.source → IsAsciiText e.source.toList →
      ∃ line column excerpt,
        f.index.position? f.text e.span.start = .ok (some (line, column)) ∧
        f.report e = .ok (e.kind.reason ++ " at " ++ f.path.elim "" (· ++ ":") ++ toString line ++
          ":" ++ toString column ++ e.expectation ++ "\n" ++ excerpt) ∧
        Begins line ((toString line).length + 2 + (column - 1)) '^' excerpt := by
  intro h
  let f : SourceFile := ⟨"a\r\n", none⟩
  let e : SyntaxError := ⟨⟨2, 2, by decide⟩, .unknownToken, [], "a\r\n", by decide⟩
  have hp : IsAsciiText e.source.toList := by
    have hsource : e.source.toList = ['a', '\r', '\n'] := by decide
    rw [hsource]
    exact .printable (by decide) (.returnAndFeed .nil)
  obtain ⟨line, column, excerpt, hposition, hreport, hbegins⟩ := h f e rfl hp
  obtain ⟨rfl, rfl⟩ : 1 = line ∧ 2 = column := by
    have hat : (LineIndex.ofSource "a\r\n").position? "a\r\n" 2 = .ok (some (1, 2)) := by rfl
    simpa using hat.symm.trans hposition
  have hheader : SyntaxErrorKind.unknownToken.reason ++ " at " ++
      (none : Option String).elim "" (· ++ ":") ++ toString 1 ++ ":" ++ toString 2 ++
      e.expectation ++ "\n" = "Unknown token at 1:2\n" :=
    rfl
  have hprinted : SourceFile.report ⟨"a\r\n", none⟩
      ⟨⟨2, 2, by decide⟩, .unknownToken, [], "a\r\n", by decide⟩ =
        .ok ("Unknown token at 1:2\n" ++ "1| a\n     ^ Unknown token") := by
    rfl
  have hexcerpt : excerpt = "1| a\n     ^ Unknown token" :=
    (String.append_right_inj _).1 (hheader ▸ Except.ok.inj (hreport.symm.trans hprinted))
  have hfive : Begins 1 5 '^' excerpt := ⟨"a", " Unknown token", by decide, hexcerpt.trans rfl⟩
  have hfour : (toString 1).length + 2 + (2 - 1) = 4 := rfl
  rw [hfour] at hbegins
  exact absurd (hbegins.blanks_inj (by decide) hfive) (by decide)

end SourceFile

end ContextFree
