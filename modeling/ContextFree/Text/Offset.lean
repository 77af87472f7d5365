/-! Places in a text, as numbers of bytes of its UTF-8 encoding. -/
namespace ContextFree.Text

def size : List Char → Nat
  | [] => 0
  | c :: cs => c.utf8Size + size cs

/-- The text before and after byte `n`. There is no such cut inside a character or past the end. -/
def cut? : List Char → Nat → Option (List Char × List Char)
  | cs, 0 => some ([], cs)
  | [], _ + 1 => none
  | c :: cs, n + 1 =>
    if c.utf8Size ≤ n + 1 then
      (cut? cs (n + 1 - c.utf8Size)).map fun (before, after) => (c :: before, after)
    else none

/-- Whether byte `n` is the end of the text or the first of a character. -/
def isBoundary (cs : List Char) (n : Nat) : Bool :=
  (cut? cs n).isSome

/-- The text from byte `start` up to byte `stop`, if both are boundaries in this order. -/
def slice? (cs : List Char) (start stop : Nat) : Option (List Char) := do
  if stop < start then none
  let (_, after) ← cut? cs start
  let (slice, _) ← cut? after (stop - start)
  return slice

def char? (cs : List Char) (n : Nat) : Option Char :=
  (cut? cs n).bind fun (_, after) => after.head?

@[simp]
theorem size_append (cs ds : List Char) : size (cs ++ ds) = size cs + size ds := by
  induction cs with
  | nil => simp [size]
  | cons c cs ih => simp [size, ih, Nat.add_assoc]

/-- A cut loses nothing. -/
theorem append_eq_of_cut? {cs before after : List Char} {n : Nat}
    (h : cut? cs n = some (before, after)) : before ++ after = cs ∧ size before = n := by
  induction cs generalizing n before with
  | nil => cases n with
    | zero => simp_all [cut?, size]
    | succ n => simp [cut?] at h
  | cons c cs ih => cases n with
    | zero =>
      obtain ⟨rfl, rfl⟩ := by simpa [cut?] using h
      exact ⟨rfl, rfl⟩
    | succ n =>
      rw [cut?] at h
      split at h
      · next hc =>
        obtain ⟨⟨b, a⟩, hb, he⟩ := Option.map_eq_some_iff.1 h
        obtain ⟨rfl, rfl⟩ := Prod.mk.inj he
        obtain ⟨ha, hs⟩ := ih hb
        exact ⟨by rw [List.cons_append, ha], by rw [size, hs]; omega⟩
      · cases h

theorem cut?_append (before after : List Char) :
    cut? (before ++ after) (size before) = some (before, after) := by
  induction before with
  | nil => cases after <;> rfl
  | cons c cs ih =>
    have hc := c.utf8Size_pos
    obtain ⟨n, hn⟩ : ∃ n, c.utf8Size + size cs = n + 1 := ⟨c.utf8Size + size cs - 1, by omega⟩
    rw [List.cons_append, size, hn, cut?, if_pos (by omega), show n + 1 - c.utf8Size = size cs by omega,
      ih]
    rfl

theorem cut?_eq_some_iff {cs before after : List Char} {n : Nat} :
    cut? cs n = some (before, after) ↔ before ++ after = cs ∧ size before = n := by
  constructor
  · exact append_eq_of_cut?
  · intro h
    rw [← h.1, ← h.2]
    exact cut?_append before after

/-- A boundary is where a first part of the text ends. -/
theorem isBoundary_iff {cs : List Char} {n : Nat} :
    isBoundary cs n = true ↔ ∃ before after, before ++ after = cs ∧ size before = n := by
  rw [isBoundary, Option.isSome_iff_exists, Prod.exists]
  simp only [cut?_eq_some_iff]

theorem isBoundary_append (before after : List Char) :
    isBoundary (before ++ after) (size before) = true :=
  isBoundary_iff.2 ⟨before, after, rfl, rfl⟩

theorem eq_nil_of_size_eq_zero {cs : List Char} (h : size cs = 0) : cs = [] := by
  cases cs with
  | nil => rfl
  | cons c cs =>
    have := c.utf8Size_pos
    rw [size] at h
    omega

/-- Of two first parts of a text, the one with more bytes continues the other. -/
theorem exists_append_of_size_le {b d a e : List Char} (h : b ++ a = d ++ e)
    (hs : size b ≤ size d) : ∃ m, d = b ++ m ∧ a = m ++ e := by
  rcases List.append_eq_append_iff.1 h with ⟨m, hd, ha⟩ | ⟨m, hb, he⟩
  · exact ⟨m, hd, ha⟩
  · -- Here `d` is a first part of `b` of the same size.
    rw [hb, size_append] at hs
    obtain rfl : m = [] := eq_nil_of_size_eq_zero (by omega)
    exact ⟨[], by simpa using hb.symm, by simpa using he.symm⟩

theorem append_inj_of_size_eq {b d a e : List Char} (h : b ++ a = d ++ e)
    (hs : size b = size d) : b = d ∧ a = e := by
  obtain ⟨m, rfl, rfl⟩ := exists_append_of_size_le h (Nat.le_of_eq hs)
  obtain rfl : m = [] := eq_nil_of_size_eq_zero (by rw [size_append] at hs; omega)
  exact ⟨(List.append_nil b).symm, rfl⟩

theorem char?_eq_some_iff {cs : List Char} {n : Nat} {c : Char} :
    char? cs n = some c ↔ ∃ before after, before ++ c :: after = cs ∧ size before = n := by
  simp only [char?, Option.bind_eq_some_iff, Prod.exists, cut?_eq_some_iff, List.head?_eq_some_iff]
  constructor
  · rintro ⟨before, _, ⟨h, hn⟩, after, rfl⟩
    exact ⟨before, after, h, hn⟩
  · rintro ⟨before, after, h, hn⟩
    exact ⟨before, _, ⟨h, hn⟩, after, rfl⟩

theorem char?_append (before after : List Char) :
    char? (before ++ after) (size before) = after.head? := by
  rw [char?, cut?_append]
  rfl

theorem char?_cons_add (c : Char) (cs : List Char) (n : Nat) :
    char? (c :: cs) (c.utf8Size + n) = char? cs n := by
  have hpos := c.utf8Size_pos
  obtain ⟨k, hk⟩ : ∃ k, c.utf8Size + n = k + 1 := ⟨c.utf8Size + n - 1, by omega⟩
  have hrest : k + 1 - c.utf8Size = n := by omega
  rw [char?, hk, cut?, if_pos (by omega), hrest, Option.bind_map]
  rfl

/-- No character starts inside another. -/
theorem char?_eq_none_of_inside {cs u after : List Char} {c : Char} {n : Nat}
    (hs : u ++ c :: after = cs) (hu : size u < n) (hn : n < size u + c.utf8Size) :
    char? cs n = none := by
  rw [Option.eq_none_iff_forall_ne_some]
  intro d hd
  obtain ⟨before, rest, hrest, rfl⟩ := char?_eq_some_iff.1 hd
  obtain ⟨m, rfl, hm⟩ := exists_append_of_size_le (hs.trans hrest.symm) (Nat.le_of_lt hu)
  -- What is between the two places is a first part of what starts with `c`: empty, or all of `c`.
  cases m with
  | nil => simp at hu
  | cons e m =>
    obtain rfl : c = e := List.head_eq_of_cons_eq hm
    rw [size_append, size] at hn
    omega

theorem lt_size_of_char? {cs : List Char} {n : Nat} {c : Char} (h : char? cs n = some c) :
    n < size cs := by
  obtain ⟨before, after, rfl, rfl⟩ := char?_eq_some_iff.1 h
  have := c.utf8Size_pos
  rw [size_append, size]
  omega

/-- Byte `n` is in the piece `text`. -/
theorem exists_append_of_char? {cs before text rest : List Char} {n : Nat} {c : Char}
    (hs : before ++ (text ++ rest) = cs) (hc : char? cs n = some c) (hone : c.utf8Size = 1)
    (hb : size before ≤ n) (hn : n < size before + size text) :
    ∃ u v, text = u ++ c :: v ∧ char? cs (n + 1) = (v ++ rest).head? ∧
      n + 1 + (size v + size rest) = size cs := by
  obtain ⟨w, e, hw, rfl⟩ := char?_eq_some_iff.1 hc
  obtain ⟨u, rfl, hu⟩ := exists_append_of_size_le (hs.trans hw.symm) hb
  have hstep : size (u ++ [c]) = size u + 1 := by rw [size_append, size, size, hone]
  have hsplit : (u ++ [c]) ++ e = text ++ rest := by simpa using hu.symm
  obtain ⟨v, htext, rfl⟩ := exists_append_of_size_le hsplit (by
    rw [size_append] at hn
    omega)
  have hn' : size (before ++ u) + 1 = size (before ++ (u ++ [c])) := by
    rw [size_append, size_append, hstep, Nat.add_assoc]
  have hcs : (before ++ (u ++ [c])) ++ (v ++ rest) = cs := by simpa using hw
  refine ⟨u, v, by simpa using htext, ?_, ?_⟩
  · rw [hn', ← hcs, char?_append]
  · rw [hn', ← hcs, size_append _ (v ++ rest), size_append v]

theorem slice?_eq_some_iff {cs s : List Char} {start stop : Nat} :
    slice? cs start stop = some s ↔
      ∃ before after, before ++ (s ++ after) = cs ∧ size before = start ∧
        size before + size s = stop := by
  rw [slice?]
  split
  · next hlt =>
    simp only [Option.bind_eq_bind, Option.bind_none, reduceCtorEq, false_iff]
    rintro ⟨b, a, -, hb, hs⟩
    omega
  · next hle =>
    simp only [Option.bind_eq_bind, Option.bind_eq_some_iff, Prod.exists,
      cut?_eq_some_iff, Option.pure_def, Option.some.injEq]
    constructor
    · rintro ⟨b, r, ⟨hr, hb⟩, s', a, ⟨ha, hs⟩, rfl⟩
      exact ⟨b, a, by rw [ha, hr], hb, by omega⟩
    · rintro ⟨b, a, hr, hb, hs⟩
      exact ⟨b, s ++ a, ⟨hr, hb⟩, s, a, ⟨rfl, by omega⟩, rfl⟩

/-- What a slice needs: its ends in order, each on a boundary. -/
theorem isSome_slice?_iff {cs : List Char} {start stop : Nat} :
    (slice? cs start stop).isSome = true ↔
      start ≤ stop ∧ isBoundary cs start = true ∧ isBoundary cs stop = true := by
  rw [Option.isSome_iff_exists]
  simp only [slice?_eq_some_iff, isBoundary_iff]
  constructor
  · rintro ⟨s, b, a, hc, rfl, rfl⟩
    exact ⟨by omega, ⟨b, s ++ a, hc, rfl⟩, b ++ s, a, by rw [List.append_assoc, hc],
      size_append b s⟩
  · rintro ⟨hle, ⟨b, r, hr, rfl⟩, d, a, ha, rfl⟩
    obtain ⟨m, rfl, rfl⟩ := exists_append_of_size_le (hr.trans ha.symm) hle
    exact ⟨m, b, a, hr, rfl, (size_append b m).symm⟩

/-- Here `u` is all that is read when byte `n` is reached, which may be inside the next character. -/
theorem exists_cut_of_le {cs : List Char} {n : Nat} (hn : n ≤ size cs) :
    ∃ u v, u ++ v = cs ∧ size u ≤ n ∧ ∀ c ∈ v.head?, n < size u + c.utf8Size := by
  induction cs generalizing n with
  | nil => exact ⟨[], [], rfl, Nat.zero_le _, by simp⟩
  | cons c cs ih =>
    rw [size] at hn
    by_cases hc : n < c.utf8Size
    · exact ⟨[], c :: cs, rfl, Nat.zero_le _, by simpa [size] using hc⟩
    · obtain ⟨u, v, rfl, hu, hv⟩ := ih (n := n - c.utf8Size) (by omega)
      refine ⟨c :: u, v, rfl, ?_, fun d hd => ?_⟩
      · rw [size]
        omega
      · have := hv d hd
        rw [size]
        omega

theorem size_toList (s : String) : size s.toList = s.utf8ByteSize := by
  rw [← String.ofList_toList (s := s), String.toList_ofList]
  induction s.toList with
  | nil => rfl
  | cons c cs ih =>
    rw [String.ofList_cons, String.utf8ByteSize_append, String.utf8ByteSize_singleton, size, ih]

theorem size_utf8Encode (cs : List Char) : cs.utf8Encode.size = size cs := by
  rw [← String.toByteArray_ofList, String.size_toByteArray, ← size_toList, String.toList_ofList]

/-- A character that takes one byte is that byte of the text. -/
theorem getElem?_toByteArray {s : String} {before after : List Char} {c : Char}
    (hs : before ++ c :: after = s.toList) (hc : c.utf8Size = 1) :
    s.toByteArray[size before]? = some c.toUInt8 := by
  have hbytes : s.toByteArray = before.utf8Encode ++ ([c].utf8Encode ++ after.utf8Encode) := by
    rw [← String.ofList_toList (s := s), ← hs, String.toByteArray_ofList, List.utf8Encode_append,
      List.utf8Encode_cons]
  have hone : [c].utf8Encode = [c.toUInt8].toByteArray := by
    rw [List.utf8Encode_singleton, String.utf8EncodeChar_eq_singleton hc]
    rfl
  have hbefore : before.utf8Encode.size = size before := size_utf8Encode before
  have hlt : size before < s.toByteArray.size := by
    rw [hbytes, ByteArray.size_append, ByteArray.size_append, hbefore, size_utf8Encode [c], size, hc]
    omega
  rw [getElem?_pos s.toByteArray (size before) hlt]
  simp only [hbytes, hone]
  rw [ByteArray.getElem_append_right (Nat.le_of_eq hbefore), ByteArray.getElem_append_left]
  · simp [hbefore, List.getElem_toByteArray]
  · simp [hbefore, List.size_toByteArray]

/-- Boundaries are the valid positions of UTF-8 strings. -/
theorem isBoundary_toList_iff {s : String} {n : Nat} :
    isBoundary s.toList n = true ↔ String.Pos.Raw.IsValid s ⟨n⟩ := by
  rw [isBoundary_iff, String.Pos.Raw.isValid_iff_exists_append]
  constructor
  · rintro ⟨b, a, h, rfl⟩
    refine ⟨.ofList b, .ofList a, ?_, ?_⟩
    · rw [← String.ofList_append, h, String.ofList_toList]
    · rw [String.rawEndPos, ← size_toList, String.toList_ofList]
  · rintro ⟨s₁, s₂, rfl, h⟩
    refine ⟨s₁.toList, s₂.toList, String.toList_append.symm, ?_⟩
    rw [size_toList]
    exact congrArg String.Pos.Raw.byteIdx h.symm

/-- No position past the end is valid. -/
theorem isBoundary_eq_false_iff {s : String} {n : Nat} :
    isBoundary s.toList n = false ↔
      s.utf8ByteSize < n ∨ ¬ String.Pos.Raw.IsValid s ⟨n⟩ := by
  rw [← Bool.not_eq_true, isBoundary_toList_iff, iff_or_self]
  exact fun h hv => Nat.not_lt.2 hv.le_utf8ByteSize h

end ContextFree.Text
