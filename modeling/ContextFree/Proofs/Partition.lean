import ContextFree.Proofs.Lines

/-! The lines of a source by number. They stand one behind the other, a line feed between two, from
the first byte of the source to the last; every byte is on one line, and none is on two. -/
namespace ContextFree

variable {before line after : List Char} {source : String} {n start stop byte : Nat}

/-- The lines that a text is joined from, with line feeds between them, are the lines of the text. -/
theorem exists_isLine_of_getElem? {lines : List (List Char)} (hl : ∀ l ∈ lines, '\n' ∉ l)
    (h : lines[n]? = some line) :
    ∃ before after, before ++ (line ++ after) = ['\n'].intercalate lines ∧
      IsLine before line after ∧ before.count '\n' = n := by
  induction lines generalizing n with
  | nil => cases h
  | cons l lines ih =>
    obtain ⟨hnot, hrest⟩ := List.forall_mem_cons.1 hl
    cases n with
    | zero =>
      obtain rfl : l = line := Option.some.inj h
      cases lines with
      | nil => exact ⟨[], [], by simp, ⟨hnot, by simp, by simp⟩, rfl⟩
      | cons next lines =>
        refine ⟨[], '\n' :: ['\n'].intercalate (next :: lines), ?_, ⟨hnot, by simp, by simp⟩, rfl⟩
        rw [List.intercalate_cons_cons, List.append_assoc]
        rfl
    | succ n =>
      rw [List.getElem?_cons_succ] at h
      obtain ⟨before, after, hs, hline, hcount⟩ := ih hrest h
      have hne : lines ≠ [] := List.ne_nil_of_mem (List.mem_of_getElem? h)
      obtain ⟨next, rest, rfl⟩ := List.exists_cons_of_ne_nil hne
      have hstarts : ∀ c ∈ (l ++ '\n' :: before).getLast?, c = '\n' := by
        cases before with
        | nil => simp
        | cons b before => simpa using hline.starts
      refine ⟨l ++ '\n' :: before, after, ?_, ⟨hline.notMem, hstarts, hline.ends⟩, ?_⟩
      · rw [List.intercalate_cons_cons, ← hs]
        simp
      · rw [List.count_append, List.count_eq_zero.2 hnot, List.count_cons_self, hcount, Nat.zero_add]

/-- Of two lines of a text only one can have a given byte, the end of a line being on it too. -/
theorem IsLine.count_eq_of_le {b l a : List Char} (h : IsLine before line after)
    (k : IsLine b l a) (hs : before ++ (line ++ after) = b ++ (l ++ a))
    (hstart : Text.size before ≤ byte) (hstop : byte ≤ Text.size before + Text.size line)
    (kstart : Text.size b ≤ byte) (kstop : byte ≤ Text.size b + Text.size l) :
    before.count '\n' = b.count '\n' := by
  rcases Nat.lt_trichotomy (before.count '\n') (b.count '\n') with hlt | heq | hgt
  · have := h.size_lt hs hlt
    omega
  · exact heq
  · have := k.size_lt hs.symm hgt
    omega

namespace LineIndex

theorem size_ofSource (source : String) : (ofSource source).size = source.utf8ByteSize :=
  Text.size_toList source

theorem lineCount_ofSource (source : String) :
    (ofSource source).lineCount = source.toList.count '\n' + 1 := by
  unfold lineCount ofSource
  rw [List.length_cons, length_startsAfter]

theorem bounds?_eq_none_iff {ix : LineIndex} : ix.bounds? n = none ↔ n = 0 ∨ ix.lineCount < n := by
  cases n with
  | zero => simp [bounds?]
  | succ n =>
    rw [bounds?, Option.map_eq_none_iff, List.getElem?_eq_none_iff, lineCount]
    omega

theorem line?_eq_none_iff {ix : LineIndex} : ix.line? byte = none ↔ ix.size < byte := by
  unfold line?
  split
  · next h => simp [h]
  · next h => simp [h]

/-- The piece with number `n` of a source that is split at its line feeds is the line `n + 1`. -/
theorem exists_isLine_of_splitOn (h : (source.toList.splitOn '\n')[n]? = some line) :
    ∃ before after, before ++ (line ++ after) = source.toList ∧ IsLine before line after ∧
      before.count '\n' = n := by
  have hlines := exists_isLine_of_getElem? (notMem_of_mem_splitOn source.toList) h
  rwa [List.intercalate_splitOn] at hlines

/-- The bounds of a line are those of a piece of the text that is a line. -/
theorem bounds?_eq_some_iff : (ofSource source).bounds? n = some (start, stop) ↔
    ∃ before line after, before ++ (line ++ after) = source.toList ∧ IsLine before line after ∧
      before.count '\n' + 1 = n ∧ Text.size before = start ∧
      Text.size before + Text.size line = stop := by
  constructor
  · intro h
    have hn : ¬ (n = 0 ∨ (ofSource source).lineCount < n) := by
      rw [← bounds?_eq_none_iff, h]
      simp
    have hlt : n - 1 < (source.toList.splitOn '\n').length := by
      rw [lineCount_ofSource] at hn
      rw [length_splitOn]
      omega
    obtain ⟨before, after, hs, hline, hcount⟩ :=
      exists_isLine_of_splitOn (List.getElem?_eq_getElem hlt)
    have hnumber : before.count '\n' + 1 = n := by omega
    have hbounds := bounds?_ofSource hline hs
    rw [hnumber, h] at hbounds
    obtain ⟨hstart, hstop⟩ := Prod.mk.inj (Option.some.inj hbounds)
    exact ⟨before, _, after, hs, hline, hnumber, hstart.symm, hstop.symm⟩
  · rintro ⟨before, line, after, hs, hline, rfl, rfl, rfl⟩
    exact bounds?_ofSource hline hs

theorem line?_eq_some_iff : (ofSource source).line? byte = some n ↔
    ∃ start stop, (ofSource source).bounds? n = some (start, stop) ∧ start ≤ byte ∧ byte ≤ stop := by
  simp only [bounds?_eq_some_iff]
  constructor
  · intro h
    have hle : byte ≤ Text.size source.toList := by
      apply Nat.le_of_not_lt
      intro hlt
      have hnone : (ofSource source).line? byte = none := line?_eq_none_iff.2 hlt
      cases h.symm.trans hnone
    obtain ⟨before, line, after, hs, hline, hstart, hstop, hnumber⟩ := exists_line_of_le hle
    have hn : before.count '\n' + 1 = n := Option.some.inj (hnumber.symm.trans h)
    exact ⟨_, _, ⟨before, line, after, hs, hline, hn, rfl, rfl⟩, hstart, hstop⟩
  · rintro ⟨start, stop, ⟨before, line, after, hs, hline, rfl, rfl, rfl⟩, hstart, hstop⟩
    have hle : byte ≤ Text.size source.toList := by
      rw [← hs, Text.size_append, Text.size_append]
      omega
    obtain ⟨b, l, a, ks, kline, kstart, kstop, knumber⟩ := exists_line_of_le hle
    have hcount := hline.count_eq_of_le kline (hs.trans ks.symm) hstart hstop kstart kstop
    rw [knumber, hcount]

/-- The index has the bytes of any line that it answers with. -/
theorem isSome_bounds?_of_line? (h : (ofSource source).line? byte = some n) :
    ((ofSource source).bounds? n).isSome = true := by
  obtain ⟨start, stop, hbounds, -⟩ := line?_eq_some_iff.1 h
  rw [hbounds, Option.isSome_some]

theorem exists_bounds?_first (source : String) :
    ∃ stop, (ofSource source).bounds? 1 = some (0, stop) := by
  obtain ⟨right, after, hs, hnot, hends⟩ := exists_lineAfter source.toList
  have hline : IsLine [] right after := ⟨hnot, by simp, hends⟩
  exact ⟨_, bounds?_ofSource hline hs⟩

theorem exists_bounds?_last (source : String) : ∃ start,
    (ofSource source).bounds? (ofSource source).lineCount = some (start, source.utf8ByteSize) := by
  obtain ⟨before, left, hs, hnot, hstarts⟩ := exists_lineBefore source.toList
  have hline : IsLine before left [] := ⟨hnot, hstarts, by simp⟩
  have hcount : (ofSource source).lineCount = before.count '\n' + 1 := by
    rw [lineCount_ofSource, ← hs, count_append_of_notMem hnot]
  have hsize : source.utf8ByteSize = Text.size before + Text.size left := by
    rw [← Text.size_toList, ← hs, Text.size_append]
  refine ⟨Text.size before, ?_⟩
  rw [hcount, hsize]
  exact bounds?_ofSource hline (by simpa using hs)

/-- Where a line is not the last, a line feed ends it, and the next line starts behind that. -/
theorem exists_bounds?_next (h : (ofSource source).bounds? n = some (start, stop))
    (hn : n < (ofSource source).lineCount) : source.toByteArray[stop]? = some '\n'.toUInt8 ∧
      ∃ stop', (ofSource source).bounds? (n + 1) = some (stop + 1, stop') := by
  obtain ⟨before, line, after, hs, hline, rfl, -, rfl⟩ := bounds?_eq_some_iff.1 h
  have hcount : 0 < after.count '\n' := by
    rw [lineCount_ofSource, ← hs, ← List.append_assoc, List.count_append,
      count_append_of_notMem hline.notMem] at hn
    omega
  cases after with
  | nil => cases hcount
  | cons c rest =>
    obtain rfl : c = '\n' := hline.ends c (by simp)
    have hfeed : (before ++ line) ++ '\n' :: rest = source.toList := by
      rw [List.append_assoc, hs]
    refine ⟨?_, ?_⟩
    · have hbyte := Text.getElem?_toByteArray hfeed rfl
      rwa [Text.size_append] at hbyte
    · obtain ⟨right, after, rfl, hnot, hends⟩ := exists_lineAfter rest
      have hnext : IsLine (before ++ (line ++ ['\n'])) right after := ⟨hnot, by simp, hends⟩
      have hs' : (before ++ (line ++ ['\n'])) ++ (right ++ after) = source.toList := by
        simpa using hs
      have hbounds := bounds?_ofSource hnext hs'
      rw [count_append_lineFeed hline.notMem, Text.size_append_lineFeed] at hbounds
      exact ⟨_, hbounds⟩

/-- The text of each line, by number from the first. -/
theorem map_slice_bounds? (source : String) :
    (List.range' 1 (ofSource source).lineCount).map (fun n =>
        ((ofSource source).bounds? n).map fun (start, stop) => Text.slice source start stop) =
      (source.toList.splitOn '\n').map fun line => some (.ok (.ofList line)) := by
  apply List.ext_getElem
  · rw [List.length_map, List.length_range', List.length_map, length_splitOn, lineCount_ofSource]
  · intro n hn hn'
    rw [List.length_map] at hn'
    have hline := List.getElem?_eq_getElem hn'
    obtain ⟨before, after, hs, h, hcount⟩ := exists_isLine_of_splitOn hline
    have hbounds := bounds?_ofSource h hs
    rw [hcount] at hbounds
    rw [List.getElem_map, List.getElem_map, List.getElem_range', Nat.one_mul, Nat.add_comm 1 n,
      hbounds, Option.map_some]
    exact congrArg some (Text.slice_append hs)

/-- What an index says of a source that is parted into its lines. -/
structure Partitions (ix : LineIndex) (source : String) : Prop where
  first : ∃ stop, ix.bounds? 1 = some (0, stop)
  last : ∃ start, ix.bounds? ix.lineCount = some (start, source.utf8ByteSize)
  /-- The next line starts one byte behind the end of a line, and that byte is a line feed. -/
  next : ∀ n start stop, ix.bounds? n = some (start, stop) → n < ix.lineCount →
    source.toByteArray[stop]? = some '\n'.toUInt8 ∧
      ∃ stop', ix.bounds? (n + 1) = some (stop + 1, stop')
  /-- The lines are the pieces of the source between its line feeds. -/
  slices : (List.range' 1 ix.lineCount).map (fun n =>
      (ix.bounds? n).map fun (start, stop) => Text.slice source start stop) =
    (source.toList.splitOn '\n').map fun line => some (.ok (.ofList line))
  notMem : ∀ line ∈ source.toList.splitOn '\n', '\n' ∉ line
  bounds?_eq_none : ∀ n, ix.bounds? n = none ↔ n = 0 ∨ ix.lineCount < n
  line?_eq_none : ∀ byte, ix.line? byte = none ↔ source.utf8ByteSize < byte
  /-- A byte, also one inside a character, is on the line that has it between its ends. -/
  line?_eq_some : ∀ byte n, ix.line? byte = some n ↔
    ∃ start stop, ix.bounds? n = some (start, stop) ∧ start ≤ byte ∧ byte ≤ stop

/-- Every source is parted by its own index. -/
theorem partitions_ofSource (source : String) : (ofSource source).Partitions source where
  first := exists_bounds?_first source
  last := exists_bounds?_last source
  next _ _ _ := exists_bounds?_next
  slices := map_slice_bounds? source
  notMem := notMem_of_mem_splitOn source.toList
  bounds?_eq_none _ := bounds?_eq_none_iff
  line?_eq_none _ := size_ofSource source ▸ line?_eq_none_iff
  line?_eq_some _ _ := line?_eq_some_iff

/-- The first line and the two last ones are blank, and byte 2 is inside a character. -/
theorem partitions_ofSource_of_blank_lines :
    let source := "\né\n\n"
    let ix := ofSource source
    ix.lineCount = 4 ∧ Text.isBoundary source.toList 2 = false ∧ ix.line? 2 = some 2 ∧
      ix.bounds? 3 = some (4, 4) ∧ source.toByteArray[4]? = some '\n'.toUInt8 ∧
      ix.bounds? 4 = some (5, 5) ∧ ix.line? 5 = some 4 ∧ ix.line? 6 = none := by
  intro source ix
  have hparts : ix.Partitions source := partitions_ofSource source
  have hcount : ix.lineCount = 4 := by decide
  have hsecond : ix.bounds? 2 = some (1, 3) := by decide
  have hthird : ix.bounds? 3 = some (4, 4) := by decide
  have hlast : ix.bounds? 4 = some (5, 5) := by decide
  have hsize : source.utf8ByteSize = 5 := by decide
  obtain ⟨hfeed, -⟩ := hparts.next 3 4 4 hthird (by omega)
  refine ⟨hcount, by decide, ?_, hthird, hfeed, hlast, ?_, ?_⟩
  · exact (hparts.line?_eq_some 2 2).2 ⟨1, 3, hsecond, by omega, by omega⟩
  · exact (hparts.line?_eq_some 5 4).2 ⟨5, 5, hlast, by omega, by omega⟩
  · exact (hparts.line?_eq_none 6).2 (by omega)

end LineIndex

end ContextFree
