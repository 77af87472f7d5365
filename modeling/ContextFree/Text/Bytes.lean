import ContextFree.Text.Offset

/-! The bytes of a text and its code points. Both put texts in the same order, character by character: of
two characters the greater has the greater code whatever stands behind it. -/
namespace ContextFree.Text

def bytes (s : String) : List UInt8 :=
  s.toByteArray.data.toList

def codePoints (s : String) : List Nat :=
  s.toList.map Char.toNat

theorem bytes_eq_flatMap (s : String) : bytes s = s.toList.flatMap String.utf8EncodeChar := by
  rw [bytes, ← String.ofList_toList (s := s), String.toByteArray_ofList, String.toList_ofList,
    List.utf8Encode, List.toList_data_toByteArray]

theorem getElem?_bytes (s : String) (n : Nat) : (bytes s)[n]? = s.toByteArray[n]? := by
  rw [bytes, Array.getElem?_toList]
  rfl

/-- A byte below 128 stands for itself: no longer code has one. -/
theorem utf8EncodeChar_eq_singleton_of_mem {c : Char} {x : UInt8}
    (h : x ∈ String.utf8EncodeChar c) (hx : x.toNat < 128) : String.utf8EncodeChar c = [x] := by
  unfold String.utf8EncodeChar at h ⊢
  dsimp only at h ⊢
  split at h
  · next hone =>
    rw [List.mem_singleton] at h
    rw [if_pos hone, h]
  · exfalso
    -- All bytes of a longer code are 128 and a remainder of at most 6 bits, or more.
    split at h
    · simp only [List.mem_cons, List.not_mem_nil, or_false] at h
      rcases h with rfl | rfl <;> rw [UInt8.toNat_ofNat'] at hx <;> omega
    · split at h
      · simp only [List.mem_cons, List.not_mem_nil, or_false] at h
        rcases h with rfl | rfl | rfl <;> rw [UInt8.toNat_ofNat'] at hx <;> omega
      · simp only [List.mem_cons, List.not_mem_nil, or_false] at h
        rcases h with rfl | rfl | rfl | rfl <;> rw [UInt8.toNat_ofNat'] at hx <;> omega

theorem eq_lineFeed_of_mem {c : Char} (h : '\n'.toUInt8 ∈ String.utf8EncodeChar c) : c = '\n' := by
  have hc : String.utf8EncodeChar c = String.utf8EncodeChar '\n' :=
    utf8EncodeChar_eq_singleton_of_mem h (by decide)
  have hbytes : (String.ofList [c]).toByteArray = (String.ofList ['\n']).toByteArray := by
    rw [String.toByteArray_ofList, String.toByteArray_ofList, List.utf8Encode_singleton,
      List.utf8Encode_singleton, hc]
  have htext : [c] = ['\n'] := String.ofList_inj.1 (String.toByteArray_inj.1 hbytes)
  exact List.head_eq_of_cons_eq htext

/-- The byte of a line feed is no byte of another character. -/
theorem char?_of_getElem?_flatMap {cs : List Char} {n : Nat}
    (h : (cs.flatMap String.utf8EncodeChar)[n]? = some '\n'.toUInt8) : char? cs n = some '\n' := by
  induction cs generalizing n with
  | nil => cases h
  | cons c cs ih =>
    rw [List.flatMap_cons] at h
    by_cases hn : n < c.utf8Size
    · rw [List.getElem?_append_left (by rwa [String.length_utf8EncodeChar])] at h
      obtain rfl : c = '\n' := eq_lineFeed_of_mem (List.mem_of_getElem? h)
      obtain rfl : n = 0 := Nat.lt_one_iff.1 hn
      rfl
    · rw [List.getElem?_append_right (by rw [String.length_utf8EncodeChar]; omega),
        String.length_utf8EncodeChar] at h
      have hc := ih h
      rwa [← char?_cons_add c, Nat.add_sub_cancel' (Nat.le_of_not_lt hn)] at hc

theorem getElem?_toByteArray_eq_lineFeed_iff {s : String} {n : Nat} :
    s.toByteArray[n]? = some '\n'.toUInt8 ↔ char? s.toList n = some '\n' := by
  constructor
  · intro h
    rw [← getElem?_bytes, bytes_eq_flatMap] at h
    exact char?_of_getElem?_flatMap h
  · intro h
    obtain ⟨before, after, hs, rfl⟩ := char?_eq_some_iff.1 h
    exact getElem?_toByteArray hs rfl

theorem utf8EncodeChar_append_lt {c d : Char} (h : c < d) (r s : List UInt8) :
    String.utf8EncodeChar c ++ r < String.utf8EncodeChar d ++ s := by
  have hlt : c.val.toNat < d.val.toNat := UInt32.lt_iff_toNat_lt.1 h
  have hmax : d.val.toNat < 0x110000 := by
    rcases d.valid with hd | hd
    · omega
    · exact hd.2
  -- A shorter code has the smaller first byte. Of two codes of one length the first byte that differs
  -- decides, as the first digit to base 64 does for the numbers.
  fun_cases String.utf8EncodeChar c <;> fun_cases String.utf8EncodeChar d <;>
    simp +zetaDelta (disch := omega) only [List.cons_append, List.nil_append,
      List.cons_lt_cons_iff, UInt8.lt_iff_toNat_lt, ← UInt8.toNat_inj, UInt8.toNat_ofNat',
      Nat.mod_eq_of_lt] <;>
    omega

/-- A code for characters that keeps their order whatever follows them. -/
structure KeepsOrder {α : Type} [LT α] (code : Char → List α) : Prop where
  ne_nil : ∀ c, code c ≠ []
  append_lt : ∀ c d, c < d → ∀ r s, code c ++ r < code d ++ s

theorem keepsOrder_utf8EncodeChar : KeepsOrder String.utf8EncodeChar where
  ne_nil _ := String.utf8EncodeChar_ne_nil
  append_lt _ _ := utf8EncodeChar_append_lt

theorem keepsOrder_toNat : KeepsOrder fun c => [c.toNat] where
  ne_nil c := List.cons_ne_nil c.toNat []
  append_lt _ _ h _ _ := List.Lex.rel (UInt32.lt_iff_toNat_lt.1 h)

section

variable {α : Type} [LT α] {code : Char → List α} (hcode : KeepsOrder code)
include hcode

theorem KeepsOrder.flatMap_lt {cs ds : List Char} (h : cs < ds) :
    cs.flatMap code < ds.flatMap code := by
  induction h with
  | @nil d ds =>
    obtain ⟨x, xs, hx⟩ := List.exists_cons_of_ne_nil (hcode.ne_nil d)
    rw [List.flatMap_nil, List.flatMap_cons, hx]
    exact List.Lex.nil
  | rel hlt => exact hcode.append_lt _ _ hlt _ _
  | cons _ ih =>
    rw [List.flatMap_cons, List.flatMap_cons]
    exact List.append_left_lt ih

/-- Of two texts that differ one is first, and their codes are not both before each other. -/
theorem KeepsOrder.flatMap_lt_iff [Std.Asymm (α := α) (· < ·)] {cs ds : List Char} :
    cs.flatMap code < ds.flatMap code ↔ cs < ds := by
  constructor
  · intro h
    rcases Std.lt_trichotomy cs ds with hlt | rfl | hgt
    · exact hlt
    · exact absurd h (List.lt_irrefl _)
    · exact absurd h (List.lt_asymm (hcode.flatMap_lt hgt))
  · exact hcode.flatMap_lt

end

theorem bytes_lt_iff {s t : String} : bytes s < bytes t ↔ s < t := by
  rw [bytes_eq_flatMap, bytes_eq_flatMap, keepsOrder_utf8EncodeChar.flatMap_lt_iff,
    String.lt_iff]

theorem codePoints_lt_iff {s t : String} : codePoints s < codePoints t ↔ s < t := by
  rw [codePoints, codePoints, List.map_eq_flatMap, List.map_eq_flatMap,
    keepsOrder_toNat.flatMap_lt_iff, String.lt_iff]

end ContextFree.Text
