import ContextFree.Proofs.Cover
import ContextFree.Proofs.Positions

/-! An index of one source asked about another. Line starts come from the one and characters from the
other: the only request with neither a place nor a refusal is one where a line of the first source starts
inside a character of the second. -/
namespace ContextFree

variable {after : List Char} {source : String} {ix : LineIndex} {byte number start stop : Nat}

namespace Text

/-- Whether a character starts at byte `n` that takes a column: not a carriage return directly before a
line feed. -/
def takesColumn (cs : List Char) (n : Nat) : Bool :=
  (char? cs n).any fun c => !(c = '\r' && char? cs (n + 1) = some '\n')

/-- The columns taken by the characters that start in the bytes from `start` up to `stop`. -/
def columnsBetween (cs : List Char) (start stop : Nat) : Nat :=
  (List.range' start (stop - start)).countP (takesColumn cs)

theorem takesColumn_append (u : List Char) (c : Char) (after : List Char) :
    takesColumn (u ++ c :: after) (size u) = !(c = '\r' && after.head? = some '\n') := by
  have hfirst : char? (u ++ c :: after) (size u) = some c := by
    rw [char?_append, List.head?_cons]
  rw [takesColumn, hfirst, Option.any_some]
  by_cases hc : c = '\r'
  · subst hc
    have hsize : size u + 1 = size (u ++ ['\r']) := (size_append u ['\r']).symm
    rw [hsize, List.append_cons, char?_append]
  · simp [hc]

theorem columnsBetween_add (cs : List Char) (n i j : Nat) :
    columnsBetween cs n (n + i + j) =
      columnsBetween cs n (n + i) + columnsBetween cs (n + i) (n + i + j) := by
  have hall : n + i + j - n = i + j := by omega
  rw [columnsBetween, columnsBetween, columnsBetween, hall, Nat.add_sub_cancel_left,
    Nat.add_sub_cancel_left, ← List.range'_append_1, List.countP_append]

/-- Of the bytes of a character only the first can take a column. -/
theorem columnsBetween_char (u : List Char) (c : Char) (after : List Char) :
    columnsBetween (u ++ c :: after) (size u) (size u + c.utf8Size) =
      if c = '\r' && after.head? = some '\n' then 0 else 1 := by
  obtain ⟨k, hk⟩ : ∃ k, c.utf8Size = k + 1 := Nat.exists_eq_add_one.2 c.utf8Size_pos
  have hinside : (List.range' (size u + 1) k).countP (takesColumn (u ++ c :: after)) = 0 := by
    rw [List.countP_eq_zero]
    intro n hn
    obtain ⟨hlo, hhi⟩ := List.mem_range'_1.1 hn
    have hnone : char? (u ++ c :: after) n = none := char?_eq_none_of_inside rfl hlo (by omega)
    rw [takesColumn, hnone]
    exact Bool.false_ne_true
  rw [columnsBetween, Nat.add_sub_cancel_left, hk, List.range'_succ, List.countP_cons, hinside,
    takesColumn_append]
  cases c = '\r' && after.head? = some '\n' <;> rfl

/-- The columns between two places are those that a piece of a line takes. -/
theorem columnsBetween_append (u piece after : List Char) :
    columnsBetween (u ++ (piece ++ after)) (size u) (size u + size piece) =
      LineIndex.columns after piece := by
  induction piece generalizing u with
  | nil => simp [columnsBetween, LineIndex.columns, size]
  | cons c piece ih =>
    have hrest := ih (u ++ [c])
    rw [List.append_assoc, List.singleton_append, size_append] at hrest
    rw [List.cons_append, size, ← Nat.add_assoc, columnsBetween_add, columnsBetween_char]
    rw [LineIndex.columns, ← List.head?_append]
    exact congrArg _ hrest

end Text

namespace LineIndex

theorem getElem?_starts_of_bounds? (h : ix.bounds? number = some (start, stop)) :
    ix.starts[number - 1]? = some start := by
  cases number with
  | zero => cases h
  | succ n =>
    obtain ⟨_, hstart, he⟩ := Option.map_eq_some_iff.1 h
    rw [Nat.add_sub_cancel, hstart, (Prod.mk.inj he).1]

/-- A request has no answer in one of two ways: the index is of a source of another size, or the byte is
no boundary. -/
theorem position?_eq_none_of_not (h : source.utf8ByteSize ≠ ix.size ∨
    Text.isBoundary source.toList byte = false) : ix.position? source byte = .ok none := by
  rw [position?, Text.size_toList]
  split
  · rfl
  · next hsize =>
    have hbyte := h.resolve_left hsize
    rw [Text.isBoundary, Option.isSome_eq_false_iff, Option.isNone_iff_eq_none] at hbyte
    rw [hbyte]
    rfl

section

variable (hsize : source.utf8ByteSize = ix.size) (hline : ix.line? byte = some number)
  (hbounds : ix.bounds? number = some (start, stop))
include hsize hline hbounds

/-- The line is cut out of the source at the place where the index has its start. -/
theorem position?_eq_of_bounds? {before : List Char}
    (hcut : Text.cut? source.toList byte = some (before, after)) :
    ix.position? source byte = match Text.slice? source.toList start byte with
      | some piece => .ok (some (number, 1 + columns after piece))
      | none => .error (.broken start byte) := by
  have hsame : ¬ Text.size source.toList ≠ ix.size := by
    rw [Text.size_toList]
    exact not_not_intro hsize
  rw [position?, if_neg hsame, hcut, hline]
  simp only [getElem?_starts_of_bounds? hbounds, Option.getD_some]
  cases Text.slice? source.toList start byte <;> rfl

theorem position?_eq_columnsBetween (hle : start ≤ byte)
    (hstart : Text.isBoundary source.toList start = true)
    (hbyte : Text.isBoundary source.toList byte = true) :
    ix.position? source byte =
      .ok (some (number, 1 + Text.columnsBetween source.toList start byte)) := by
  obtain ⟨piece, hpiece⟩ :=
    Option.isSome_iff_exists.1 (Text.isSome_slice?_iff.2 ⟨hle, hstart, hbyte⟩)
  obtain ⟨u, after, hs, rfl, rfl⟩ := Text.slice?_eq_some_iff.1 hpiece
  have hcut : Text.cut? source.toList (Text.size u + Text.size piece) = some (u ++ piece, after) :=
    Text.cut?_eq_some_iff.2 ⟨by rw [List.append_assoc, hs], Text.size_append ..⟩
  rw [position?_eq_of_bounds? hsize hline hbounds hcut, hpiece, ← hs, Text.columnsBetween_append]

theorem position?_eq_broken (hstart : Text.isBoundary source.toList start = false)
    (hbyte : Text.isBoundary source.toList byte = true) :
    ix.position? source byte = .error (.broken start byte) := by
  obtain ⟨⟨before, after⟩, hcut⟩ := Option.isSome_iff_exists.1 hbyte
  have hslice : Text.slice? source.toList start byte = none := by
    rw [← Option.not_isSome_iff_eq_none, Text.isSome_slice?_iff, hstart]
    simp
  rw [position?_eq_of_bounds? hsize hline hbounds hcut, hslice]

end

/-- What the index of `a` says of the place `byte` of `b`, where the line of that byte in `a` has the number
`number` and starts at `start`. -/
structure Answers (a b : String) (byte number start : Nat) : Prop where
  error_iff : ∀ fault, (ofSource a).position? b byte = .error fault ↔
    ¬ String.Pos.Raw.IsValid b ⟨start⟩ ∧ fault = .broken start byte
  ok_of_isValid : String.Pos.Raw.IsValid b ⟨start⟩ → (ofSource a).position? b byte =
    .ok (some (number, 1 + Text.columnsBetween b.toList start byte))

theorem Answers.ne_none {a b : String} (h : Answers a b byte number start) :
    (ofSource a).position? b byte ≠ .ok none := by
  by_cases hstart : String.Pos.Raw.IsValid b ⟨start⟩
  · rw [h.ok_of_isValid hstart]
    simp
  · rw [(h.error_iff _).2 ⟨hstart, rfl⟩]
    simp

theorem exists_answers {a b : String} (hsize : b.utf8ByteSize = a.utf8ByteSize)
    (hbyte : Text.isBoundary b.toList byte = true) :
    ∃ number start stop, (ofSource a).line? byte = some number ∧
      (ofSource a).bounds? number = some (start, stop) ∧
      Text.IsLineStart a.toList byte start ∧ Answers a b byte number start := by
  rw [← size_ofSource a] at hsize
  have hle : byte ≤ (ofSource a).size := by
    rw [← hsize]
    exact (Text.isBoundary_toList_iff.1 hbyte).le_utf8ByteSize
  obtain ⟨number, start, stop, hline, hbounds, hstart, hstop⟩ := exists_bounds?_of_le hle
  obtain ⟨hlineStart, -⟩ := isLineStart_and_isLineEnd hbounds hstart hstop
  refine ⟨number, start, stop, hline, hbounds, hlineStart, ?_, ?_⟩
  · intro fault
    rw [← Text.isBoundary_toList_iff, Bool.not_eq_true]
    cases hb : Text.isBoundary b.toList start with
    | false => simp [position?_eq_broken hsize hline hbounds hb hbyte, eq_comm]
    | true => simp [position?_eq_columnsBetween hsize hline hbounds hstart hb hbyte]
  · intro hb
    rw [← Text.isBoundary_toList_iff] at hb
    exact position?_eq_columnsBetween hsize hline hbounds hstart hb hbyte

/-- Where the index of `a` is asked about `b`, a request is refused just if the sizes differ or the byte is
no valid place of `b`. All else is answered, with the line that the byte has in `a` and the columns of `b`
since the start of that line, unless that start cuts a character of `b`: only then is there a fault. -/
theorem position?_of_other_source :
    (∀ (a b : String) (byte : Nat), (ofSource a).position? b byte = .ok none ↔
      b.utf8ByteSize ≠ a.utf8ByteSize ∨ b.utf8ByteSize < byte ∨
        ¬ String.Pos.Raw.IsValid b ⟨byte⟩) ∧
    (∀ (a b : String) (byte : Nat), b.utf8ByteSize = a.utf8ByteSize →
      String.Pos.Raw.IsValid b ⟨byte⟩ →
      ∃ number start stop, (ofSource a).line? byte = some number ∧
        (ofSource a).bounds? number = some (start, stop) ∧
        Text.IsLineStart a.toList byte start ∧ Answers a b byte number start) ∧
    ∀ (a : String) (byte : Nat), ∃ place, (ofSource a).position? a byte = .ok place := by
  refine ⟨fun a b byte => ?_, fun a b byte hsize hbyte => ?_, fun a byte => ?_⟩
  · rw [← Text.isBoundary_eq_false_iff]
    constructor
    · intro h
      by_cases hsize : b.utf8ByteSize = a.utf8ByteSize
      · right
        rw [← Bool.not_eq_true]
        intro hbyte
        obtain ⟨_, _, _, -, -, -, hanswers⟩ := exists_answers hsize hbyte
        exact hanswers.ne_none h
      · exact .inl hsize
    · intro h
      rw [← size_ofSource a] at h
      exact position?_eq_none_of_not h
  · exact exists_answers hsize (Text.isBoundary_toList_iff.2 hbyte)
  · exact ⟨_, position?_ofSource a byte⟩

/-- In the first source the line of byte 2 starts at byte 1, and so does the line of byte 6. The second
source has a character there and line breaks of its own behind it; the third has the inside of a character
there. -/
theorem position?_of_other_source_with_breaks :
    let a := "\nabcde"
    let b := "x\r\n\ré"
    let c := "éabcd"
    (ofSource a).position? b 2 = .ok (some (2, 1)) ∧ (ofSource a).position? b 6 = .ok (some (2, 4)) ∧
      (ofSource a).position? b 5 = .ok none ∧ (ofSource a).position? c 2 = .error (.broken 1 2) := by
  intro a b c
  obtain ⟨hnone, hanswers, -⟩ := position?_of_other_source
  have hvalid (s : String) (n : Nat) (h : Text.isBoundary s.toList n = true) :
      String.Pos.Raw.IsValid s ⟨n⟩ :=
    Text.isBoundary_toList_iff.1 h
  have hbounds : (ofSource a).bounds? 2 = some (1, 6) := by decide
  have hsecond (s : String) (n : Nat) (hsize : s.utf8ByteSize = a.utf8ByteSize)
      (h : Text.isBoundary s.toList n = true) (hline : (ofSource a).line? n = some 2) :
      Answers a s n 2 1 := by
    obtain ⟨number, start, stop, hnumber, hstart, -, hall⟩ := hanswers a s n hsize (hvalid s n h)
    obtain rfl := Option.some.inj (hline.symm.trans hnumber)
    obtain ⟨rfl, rfl⟩ := Prod.mk.inj (Option.some.inj (hbounds.symm.trans hstart))
    exact hall
  refine ⟨?_, ?_, ?_, ?_⟩
  · have hcolumns : Text.columnsBetween b.toList 1 2 = 0 := by decide
    have h := (hsecond b 2 (by decide) (by decide) (by decide)).ok_of_isValid (hvalid b 1 (by decide))
    rwa [hcolumns] at h
  · have hcolumns : Text.columnsBetween b.toList 1 6 = 3 := by decide
    have h := (hsecond b 6 (by decide) (by decide) (by decide)).ok_of_isValid (hvalid b 1 (by decide))
    rwa [hcolumns] at h
  · exact (hnone a b 5).2 (.inr (Text.isBoundary_eq_false_iff.1 (by decide)))
  · refine ((hsecond c 2 (by decide) (by decide) (by decide)).error_iff _).2 ⟨?_, rfl⟩
    rw [← Text.isBoundary_toList_iff]
    decide

end LineIndex

end ContextFree
