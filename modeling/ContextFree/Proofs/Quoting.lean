import ContextFree.Symbol

/-! A literal is read back from the front of any text that starts with it, and the rest is left
alone. No literal goes over the end of a line. -/
namespace ContextFree.Text.Quoted

variable {d : Char}

theorem delimiter_eq (cs : List Char) : delimiter cs = '"' ∨ delimiter cs = '\'' := by
  unfold delimiter
  split
  · exact .inr rfl
  · exact .inl rfl

theorem decodeUpTo_cons {c : Char} (hd : c ≠ d) (hc : c ≠ '\\') (r : List Char) :
    decodeUpTo d (c :: r) = (decodeUpTo d r).map fun (cs, r) => (c :: cs, r) := by
  rw [decodeUpTo, if_neg hd]
  intro e _ he
  exact absurd he hc

/-- No delimiter is the letter of an escape, so a backslash before it stands for it alone. -/
theorem decodeUpTo_escape (hd : d = '"' ∨ d = '\'') (c : Char) (r : List Char) :
    decodeUpTo d (escape d c ++ r) = (decodeUpTo d r).map fun (cs, r) => (c :: cs, r) := by
  unfold escape
  split
  -- The characters with a letter of their own, then the delimiter and all others.
  · rfl
  · rfl
  · rfl
  · rfl
  · next hb _ _ _ =>
    split
    · next he =>
      subst he
      rcases hd with rfl | rfl <;> rfl
    · next he => exact decodeUpTo_cons he hb r

theorem decodeUpTo_flatMap_escape (hd : d = '"' ∨ d = '\'') (cs r : List Char) :
    decodeUpTo d (cs.flatMap (escape d) ++ d :: r) = some (cs, r) := by
  induction cs with
  | nil => rcases hd with rfl | rfl <;> rfl
  | cons c cs ih =>
    rw [List.flatMap_cons, List.append_assoc, decodeUpTo_escape hd, ih, Option.map_some]

theorem decode_encode_append (cs r : List Char) : decode (encode cs ++ r) = some (cs, r) := by
  have h := decodeUpTo_flatMap_escape (delimiter_eq cs) cs r
  simpa only [encode, decode, List.cons_append, List.append_assoc, List.nil_append] using h

/-- What can be read back from the front of a text can be told apart there. -/
theorem encode_append_inj {cs ds r u : List Char} (h : encode cs ++ r = encode ds ++ u) :
    cs = ds ∧ r = u := by
  have hd := congrArg decode h
  rw [decode_encode_append, decode_encode_append] at hd
  exact Prod.mk.inj (Option.some.inj hd)

section

variable {b : Char} (hb : b = '\n' ∨ b = '\r' ∨ b = '\t')
include hb

/-- A break is written as a backslash and a letter. -/
theorem notMem_escape (d c : Char) : b ∉ escape d c := by
  unfold escape
  split
  -- The characters with a letter of their own, the breaks among them, then all others.
  · rcases hb with rfl | rfl | rfl <;> decide
  · rcases hb with rfl | rfl | rfl <;> decide
  · rcases hb with rfl | rfl | rfl <;> decide
  · rcases hb with rfl | rfl | rfl <;> decide
  · next hn hr ht =>
    have hslash : b ≠ '\\' := by rcases hb with rfl | rfl | rfl <;> decide
    have hc : b ≠ c := by
      rintro rfl
      rcases hb with h | h | h
      · exact hn h
      · exact hr h
      · exact ht h
    split
    · simp [hslash, hc]
    · simp [hc]

theorem notMem_encode (cs : List Char) : b ∉ encode cs := by
  have hdelimiter : b ≠ delimiter cs := by
    rcases delimiter_eq cs with hd | hd
    · rw [hd]
      rcases hb with rfl | rfl | rfl <;> decide
    · rw [hd]
      rcases hb with rfl | rfl | rfl <;> decide
  have htext : b ∉ cs.flatMap (escape (delimiter cs)) := by
    intro h
    obtain ⟨c, -, hc⟩ := List.mem_flatMap.1 h
    exact notMem_escape hb (delimiter cs) c hc
  simp [encode, hdelimiter, htext]

end

end ContextFree.Text.Quoted

namespace ContextFree

open Text.Quoted

theorem toList_quote (s : String) : (quote s).toList = encode s.toList :=
  String.toList_ofList

theorem quote_append_inj {s t r u : String} (h : quote s ++ r = quote t ++ u) : s = t ∧ r = u := by
  have hl := congrArg String.toList h
  simp only [String.toList_append, toList_quote] at hl
  obtain ⟨hs, hr⟩ := encode_append_inj hl
  exact ⟨String.toList_inj.1 hs, String.toList_inj.1 hr⟩

/-- A literal shows its text and where it ends, whatever stands behind it: two such texts are the
same only if both parts are, and a reader that goes by the first character and by the backslashes
finds the two. A literal is on one line, without tabs. -/
theorem quote_self_delimiting :
    (∀ s t r u : String, quote s ++ r = quote t ++ u ↔ s = t ∧ r = u) ∧
    (∀ s r : String, decode (quote s ++ r).toList = some (s.toList, r.toList)) ∧
    ∀ s : String, '\n' ∉ (quote s).toList ∧ '\r' ∉ (quote s).toList ∧ '\t' ∉ (quote s).toList := by
  refine ⟨fun s t r u => ⟨quote_append_inj, ?_⟩, fun s r => ?_, fun s => ?_⟩
  · rintro ⟨rfl, rfl⟩
    rfl
  · rw [String.toList_append, toList_quote, decode_encode_append]
  · rw [toList_quote]
    have hn := notMem_encode (b := '\n') (.inl rfl) s.toList
    have hr := notMem_encode (b := '\r') (.inr (.inl rfl)) s.toList
    have ht := notMem_encode (b := '\t') (.inr (.inr rfl)) s.toList
    exact ⟨hn, hr, ht⟩

/-- A backslash before a letter is not an escape of its own. -/
example : quote "\\n" = "\"\\\\n\"" ∧ quote "\n" = "\"\\n\"" := by
  decide

end ContextFree
