import ContextFree.Ascending
import ContextFree.Proofs.Partition
import ContextFree.Text.Bytes

/-! An index knows of its source how long it is and where its line feeds are, and all of that can be found
out by asking for the lines of bytes. -/
namespace ContextFree

variable {cs : List Char} {source a b : String} {n x : Nat}

namespace LineIndex

theorem mem_startsAfter_iff : x ∈ startsAfter n cs ↔
    ∃ feed, Text.char? cs feed = some '\n' ∧ x = n + feed + 1 := by
  constructor
  · intro h
    induction cs generalizing n with
    | nil => cases h
    | cons c cs ih =>
      have hrest : x ∈ startsAfter (n + c.utf8Size) cs →
          ∃ feed, Text.char? (c :: cs) feed = some '\n' ∧ x = n + feed + 1 := by
        intro hx
        obtain ⟨feed, hfeed, rfl⟩ := ih hx
        exact ⟨c.utf8Size + feed, by rwa [Text.char?_cons_add], by omega⟩
      rw [startsAfter] at h
      split at h
      · next hc =>
        subst hc
        rcases List.mem_cons.1 h with rfl | hx
        · exact ⟨0, rfl, rfl⟩
        · exact hrest hx
      · exact hrest h
  · rintro ⟨feed, hfeed, rfl⟩
    obtain ⟨u, v, rfl, rfl⟩ := Text.char?_eq_some_iff.1 hfeed
    rw [startsAfter_append, startsAfter, if_pos rfl]
    exact List.mem_append_right _ List.mem_cons_self

theorem isAscending_startsAfter (n : Nat) (cs : List Char) : IsAscending (startsAfter n cs) := by
  induction cs generalizing n with
  | nil => exact List.Pairwise.nil
  | cons c cs ih =>
    rw [startsAfter]
    split
    · refine List.pairwise_cons.2 ⟨fun x hx => ?_, ih _⟩
      exact Nat.compare_eq_lt.2 (bounds_of_mem_startsAfter hx).1
    · exact ih _

theorem ofSource_eq_of_same_lineFeeds (hsize : a.utf8ByteSize = b.utf8ByteSize)
    (hfeeds : ∀ n, Text.char? a.toList n = some '\n' ↔ Text.char? b.toList n = some '\n') :
    ofSource a = ofSource b := by
  have hstarts : startsAfter 0 a.toList = startsAfter 0 b.toList := by
    apply (isAscending_startsAfter 0 _).eq_of_mem_iff (isAscending_startsAfter 0 _)
    intro x
    simp only [mem_startsAfter_iff, hfeeds]
  rw [ofSource, ofSource, hstarts, Text.size_toList, Text.size_toList, hsize]

/-- A line feed is where the next byte has the next line. -/
theorem char?_eq_lineFeed_iff : Text.char? source.toList n = some '\n' ↔
    ∃ number, (ofSource source).line? n = some number ∧
      (ofSource source).line? (n + 1) = some (number + 1) := by
  constructor
  · intro h
    obtain ⟨u, v, hs, rfl⟩ := Text.char?_eq_some_iff.1 h
    have hnext : (u ++ ['\n']) ++ v = source.toList := by rw [← hs, List.append_assoc]; rfl
    have hline := line?_size hnext
    rw [Text.size_append, List.count_append] at hline
    exact ⟨_, line?_size hs, hline⟩
  · rintro ⟨number, hline, hnext⟩
    have hmem : n + 1 ∈ (ofSource source).starts := by
      apply Decidable.of_not_not
      intro hnot
      have hsame : (ofSource source).starts.countP (· ≤ n + 1) =
          (ofSource source).starts.countP (· ≤ n) := by
        apply List.countP_congr
        intro x hx
        have hne : x ≠ n + 1 := fun he => hnot (he ▸ hx)
        rw [decide_eq_true_eq, decide_eq_true_eq]
        omega
      rw [countP_of_line? hline, countP_of_line? hnext] at hsame
      omega
    rcases List.mem_cons.1 hmem with hzero | hafter
    · omega
    · obtain ⟨feed, hfeed, he⟩ := mem_startsAfter_iff.1 hafter
      obtain rfl : n = feed := by omega
      exact hfeed

theorem size_eq_of_same_lines
    (h : ∀ byte, (ofSource a).line? byte = (ofSource b).line? byte) :
    a.utf8ByteSize = b.utf8ByteSize := by
  have hpast (byte : Nat) : a.utf8ByteSize < byte ↔ b.utf8ByteSize < byte := by
    rw [← size_ofSource, ← size_ofSource, ← line?_eq_none_iff, ← line?_eq_none_iff, h]
  have hb := hpast a.utf8ByteSize
  have ha := hpast b.utf8ByteSize
  omega

/-- Two indexes are the same just if their sources have one size and line feeds at the same bytes, and just
if they find the same line for every byte. -/
theorem ofSource_eq_iff (a b : String) :
    (ofSource a = ofSource b ↔ a.utf8ByteSize = b.utf8ByteSize ∧
      ∀ n : Nat, a.toByteArray[n]? = some '\n'.toUInt8 ↔ b.toByteArray[n]? = some '\n'.toUInt8) ∧
    (ofSource a = ofSource b ↔ ∀ byte, (ofSource a).line? byte = (ofSource b).line? byte) := by
  simp only [Text.getElem?_toByteArray_eq_lineFeed_iff]
  have hlines : ofSource a = ofSource b →
      ∀ byte, (ofSource a).line? byte = (ofSource b).line? byte := by
    intro h byte
    rw [h]
  have hfeeds : (∀ byte, (ofSource a).line? byte = (ofSource b).line? byte) →
      a.utf8ByteSize = b.utf8ByteSize ∧
        ∀ n, Text.char? a.toList n = some '\n' ↔ Text.char? b.toList n = some '\n' := by
    intro h
    refine ⟨size_eq_of_same_lines h, fun n => ?_⟩
    simp only [char?_eq_lineFeed_iff, h]
  exact ⟨⟨fun h => hfeeds (hlines h), fun h => ofSource_eq_of_same_lineFeeds h.1 h.2⟩,
    hlines, fun h => ofSource_eq_of_same_lineFeeds (hfeeds h).1 (hfeeds h).2⟩

end LineIndex

end ContextFree
