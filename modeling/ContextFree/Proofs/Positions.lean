import ContextFree.Proofs.Lines

/-! The line and column that the index finds for a byte are those of a scanner that reads the text
once from its start. -/
namespace ContextFree

variable {after left u v cs : List Char} {source : String} {p : Nat × Nat}

namespace Scanner

/-- The position after the character `c` at position `p`, `next` being the character that follows.
A carriage return directly before a line feed takes no column. -/
def advance (p : Nat × Nat) (c : Char) (next : Option Char) : Nat × Nat :=
  if c = '\n' then (p.1 + 1, 1)
  else if c = '\r' && next = some '\n' then p
  else (p.1, p.2 + 1)

/-- The position on reaching byte `n` of a text that begins at position `p`, if that byte is a
boundary. -/
def positionFrom (p : Nat × Nat) : List Char → Nat → Option (Nat × Nat)
  | _, 0 => some p
  | [], _ + 1 => none
  | c :: cs, n + 1 =>
    if c.utf8Size ≤ n + 1 then positionFrom (advance p c cs.head?) cs (n + 1 - c.utf8Size) else none

def position? (source : String) (byte : Nat) : Option (Nat × Nat) :=
  positionFrom (1, 1) source.toList byte

/-- The position after the text `cs`, which `after` follows. -/
def advanceAll (after : List Char) (p : Nat × Nat) : List Char → Nat × Nat
  | [] => p
  | c :: cs => advanceAll after (advance p c (cs.head?.or after.head?)) cs

theorem positionFrom_append (p : Nat × Nat) (u v : List Char) :
    positionFrom p (u ++ v) (Text.size u) = some (advanceAll v p u) := by
  induction u generalizing p with
  | nil => cases v <;> rfl
  | cons c u ih =>
    have hc := c.utf8Size_pos
    obtain ⟨n, hn⟩ : ∃ n, c.utf8Size + Text.size u = n + 1 :=
      ⟨c.utf8Size + Text.size u - 1, by omega⟩
    have hrest : n + 1 - c.utf8Size = Text.size u := by omega
    rw [List.cons_append, Text.size, hn, positionFrom, if_pos (by omega), hrest, ih,
      List.head?_append, advanceAll]

theorem positionFrom_eq_none {n : Nat} (h : Text.isBoundary cs n = false) :
    positionFrom p cs n = none := by
  induction cs generalizing p n with
  | nil =>
    cases n with
    | zero => simp [Text.isBoundary, Text.cut?] at h
    | succ n => rfl
  | cons c cs ih =>
    cases n with
    | zero => simp [Text.isBoundary, Text.cut?] at h
    | succ n =>
      rw [positionFrom]
      split
      · next hc =>
        rw [Text.isBoundary, Text.cut?, if_pos hc, Option.isSome_map] at h
        exact ih h
      · rfl

theorem advanceAll_append (after : List Char) (p : Nat × Nat) (u v : List Char) :
    advanceAll after p (u ++ v) = advanceAll after (advanceAll (v ++ after) p u) v := by
  induction u generalizing p with
  | nil => rfl
  | cons c u ih =>
    rw [List.cons_append, advanceAll, ih, List.head?_append, advanceAll, List.head?_append,
      Option.or_assoc]

theorem advanceAll_fst (after : List Char) (p : Nat × Nat) (cs : List Char) :
    (advanceAll after p cs).1 = p.1 + cs.count '\n' := by
  induction cs generalizing p with
  | nil => rfl
  | cons c cs ih =>
    rw [advanceAll, ih, advance, List.count_cons]
    by_cases hc : c = '\n'
    · simp [hc]
      omega
    · simp only [hc, if_false, beq_iff_eq]
      split <;> simp

/-- After a line feed the column is the first again. -/
theorem advanceAll_eq (hb : ∀ c ∈ cs.getLast?, c = '\n') :
    advanceAll after (1, 1) cs = (cs.count '\n' + 1, 1) := by
  rw [Prod.ext_iff, advanceAll_fst]
  refine ⟨Nat.add_comm .., ?_⟩
  rcases List.eq_nil_or_concat cs with rfl | ⟨b, c, he⟩
  · rfl
  · rw [List.concat_eq_append] at he
    subst he
    obtain rfl : c = '\n' := hb c (by simp)
    rw [advanceAll_append]
    rfl

theorem advanceAll_of_notMem (h : '\n' ∉ left) :
    advanceAll after p left = (p.1, p.2 + LineIndex.columns after left) := by
  induction left generalizing p with
  | nil => rfl
  | cons c left ih =>
    obtain ⟨hc, hl⟩ := not_or.1 (mt List.mem_cons.2 h)
    rw [advanceAll, ih hl, advance, if_neg (Ne.symm hc), LineIndex.columns]
    split
    · rw [Nat.zero_add]
    · rw [Nat.add_assoc]

theorem position?_eq_none_iff {byte : Nat} :
    position? source byte = none ↔ Text.isBoundary source.toList byte = false := by
  constructor
  · intro h
    cases hb : Text.isBoundary source.toList byte with
    | false => rfl
    | true =>
      obtain ⟨u, v, hs, rfl⟩ := Text.isBoundary_iff.1 hb
      rw [position?, ← hs, positionFrom_append] at h
      cases h
  · exact positionFrom_eq_none

end Scanner

namespace LineIndex

theorem position?_append (hs : u ++ v = source.toList) :
    (ofSource source).position? source (Text.size u) =
      .ok (some (Scanner.advanceAll v (1, 1) u)) := by
  have hline := line?_size hs
  obtain ⟨before, left, right, after, rfl, rfl, h⟩ := exists_isLine u v
  have hl : '\n' ∉ left := h.notMem_left
  have hstart := getElem?_starts h.starts (v := left ++ (right ++ after)) (by simpa using hs)
  have hcount : (before ++ left).count '\n' = before.count '\n' := count_append_of_notMem hl
  have hslice : Text.slice? source.toList (Text.size before) (Text.size (before ++ left)) =
      some left := by
    refine Text.slice?_eq_some_iff.2 ⟨before, right ++ after, ?_, rfl, ?_⟩
    · rw [← hs, List.append_assoc]
    · rw [Text.size_append]
  have hsize : ¬ Text.size source.toList ≠ (ofSource source).size := fun hne => hne rfl
  have hcut := Text.cut?_append (before ++ left) (right ++ after)
  rw [hs] at hcut
  rw [Scanner.advanceAll_append, Scanner.advanceAll_eq h.starts, Scanner.advanceAll_of_notMem hl]
  rw [position?, if_neg hsize, hcut, hline, hcount]
  simp only [Nat.add_sub_cancel, hstart, Option.getD_some, hslice]
  rfl

theorem position?_eq_none {byte : Nat} (h : Text.isBoundary source.toList byte = false) :
    (ofSource source).position? source byte = .ok none := by
  have hsize : ¬ Text.size source.toList ≠ (ofSource source).size := fun hne => hne rfl
  rw [Text.isBoundary, Option.isSome_eq_false_iff, Option.isNone_iff_eq_none] at h
  rw [position?, if_neg hsize, h]
  rfl

/-- No slice at the start of a line can fail where the index is that of the text. -/
theorem position?_ofSource (source : String) (byte : Nat) :
    (ofSource source).position? source byte = .ok (Scanner.position? source byte) := by
  cases hb : Text.isBoundary source.toList byte with
  | false =>
    have hn : Scanner.position? source byte = none := Scanner.positionFrom_eq_none hb
    rw [position?_eq_none hb, hn]
  | true =>
    obtain ⟨u, v, hs, rfl⟩ := Text.isBoundary_iff.1 hb
    rw [position?_append hs, Scanner.position?, ← hs, Scanner.positionFrom_append]

/-- The index has a position for just the valid places of the text, and there it agrees with the
scanner. -/
theorem position?_eq_scanner (source : String) (byte : Nat) :
    ((ofSource source).position? source byte = .ok none ↔
      source.utf8ByteSize < byte ∨ ¬ String.Pos.Raw.IsValid source ⟨byte⟩) ∧
    (ofSource source).position? source byte = .ok (Scanner.position? source byte) := by
  refine ⟨?_, position?_ofSource source byte⟩
  rw [position?_ofSource, Except.ok.injEq, Scanner.position?_eq_none_iff,
    Text.isBoundary_eq_false_iff]

end LineIndex

end ContextFree
