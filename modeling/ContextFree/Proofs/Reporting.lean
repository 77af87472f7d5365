import ContextFree.Proofs.Excerpt
import ContextFree.Proofs.Partition
import ContextFree.Proofs.Positions

/-! An error that exists can always be shown. Every slice that a report or an excerpt takes has its
ends in order and on boundaries. -/
namespace ContextFree

variable {source : String} {span : Span}

namespace Excerpt

theorem rows_eq_misfit (h : span.fits source = false) :
    rows source span = .error (.misfit span (Text.size source.toList)) := by
  simp only [rows, h, Bool.not_false, if_true]
  rfl

end Excerpt

namespace SourceFile

theorem exists_located (f : SourceFile) (message : String) (span : Span) :
    ∃ s, f.located message (some span) = .ok s := by
  rw [located, index, LineIndex.position?_ofSource]
  exact ⟨_, rfl⟩

theorem excerpt_eq_misfit {f : SourceFile} (h : span.fits f.text = false) (message : String)
    (mark : Char) :
    f.excerpt span message mark = .error (.misfit span (Text.size f.text.toList)) := by
  rw [excerpt, Excerpt.rows_eq_misfit h]
  rfl

theorem exists_excerpt {f : SourceFile} (h : span.fits f.text = true) (message : String)
    (mark : Char) : ∃ s, f.excerpt span message mark = .ok s := by
  obtain ⟨_, _, rs, hrs, -⟩ := Excerpt.exists_rows h
  rw [excerpt, hrs]
  exact ⟨_, rfl⟩

theorem report_eq_foreign {f : SourceFile} {e : SyntaxError} (h : e.source ≠ f.text) :
    f.report e = .error .foreign := by
  rw [report]
  simp only [h, ne_eq, not_false_eq_true, if_true]
  rfl

theorem exists_report {f : SourceFile} {e : SyntaxError} (h : e.source = f.text) :
    ∃ s, f.report e = .ok s := by
  obtain ⟨header, hheader⟩ := f.exists_located e.kind.reason e.span
  obtain ⟨body, hbody⟩ := exists_excerpt (f := f) (h ▸ e.fits) e.kind.reason '^'
  rw [report]
  simp only [h, ne_eq, not_true_eq_false, if_false, hheader, hbody]
  exact ⟨_, rfl⟩

end SourceFile

namespace SyntaxError

theorem exists_covered (e : SyntaxError) : ∃ s, e.covered = .ok s := by
  obtain ⟨hstart, hstop⟩ := Span.fits_iff.1 e.fits
  exact Text.exists_slice e.span.start_le_stop hstart hstop

theorem exists_render (e : SyntaxError) : ∃ s, e.render = .ok s := by
  obtain ⟨s, hs⟩ := e.exists_covered
  rw [render, hs]
  exact ⟨_, rfl⟩

theorem exists_positions (e : SyntaxError) : ∃ p, e.positions = .ok p := by
  obtain ⟨hstart, hstop⟩ := Span.fits_iff.1 e.fits
  have hfirst := mt Scanner.position?_eq_none_iff.1 (Bool.not_eq_false _ ▸ hstart)
  have hlast := mt Scanner.position?_eq_none_iff.1 (Bool.not_eq_false _ ▸ hstop)
  obtain ⟨p, hp⟩ := Option.ne_none_iff_exists'.1 hfirst
  obtain ⟨q, hq⟩ := Option.ne_none_iff_exists'.1 hlast
  simp only [positions, LineIndex.position?_ofSource, hp, hq]
  exact ⟨(p, q), rfl⟩

end SyntaxError

theorem Span.fits_eq_false_iff :
    span.fits source = false ↔ source.utf8ByteSize < span.stop ∨
      ¬ String.Pos.Raw.IsValid source ⟨span.start⟩ ∨
      ¬ String.Pos.Raw.IsValid source ⟨span.stop⟩ := by
  rw [← Bool.not_eq_true, fits_iff_isValid, Classical.not_and_iff_not_or_not,
    Classical.not_and_iff_not_or_not, Nat.not_le]

/-- Whatever is asked of an error is answered, except for a report over another source. No line is
looked up that the index does not have. Excerpts are refused for just the spans that end past the
source or cut a character. -/
theorem SyntaxError.never_faults (e : SyntaxError) :
    (∃ s, e.covered = .ok s) ∧ (∃ p, e.positions = .ok p) ∧ (∃ s, e.render = .ok s) ∧
    (∀ (source : String) byte number, (LineIndex.ofSource source).line? byte = some number →
      ((LineIndex.ofSource source).bounds? number).isSome = true) ∧
    (∀ path, ∃ s, (SourceFile.mk e.source path).report e = .ok s) ∧
    (∀ (f : SourceFile) fault, f.report e = .error fault ↔ f.text ≠ e.source ∧ fault = .foreign) ∧
    ∀ (f : SourceFile) (span : Span) message mark fault,
      f.excerpt span message mark = .error fault ↔
        (f.text.utf8ByteSize < span.stop ∨ ¬ String.Pos.Raw.IsValid f.text ⟨span.start⟩ ∨
          ¬ String.Pos.Raw.IsValid f.text ⟨span.stop⟩) ∧
        fault = .misfit span f.text.utf8ByteSize := by
  refine ⟨e.exists_covered, e.exists_positions, e.exists_render,
    fun _ _ _ => LineIndex.isSome_bounds?_of_line?, fun path => SourceFile.exists_report rfl,
    fun f fault => ?_, fun f span message mark fault => ?_⟩
  · by_cases h : e.source = f.text
    · obtain ⟨s, hs⟩ := SourceFile.exists_report h
      simp [hs, h]
    · rw [SourceFile.report_eq_foreign h]
      simp [Ne.symm h, eq_comm]
  · rw [← Span.fits_eq_false_iff, ← Text.size_toList]
    cases h : span.fits f.text with
    | true =>
      obtain ⟨s, hs⟩ := SourceFile.exists_excerpt h message mark
      simp [hs]
    | false =>
      rw [SourceFile.excerpt_eq_misfit h]
      simp [eq_comm]

end ContextFree
