import Mathlib.Data.List.TakeWhile
import TemplateAudit.Source.Position

namespace TemplateAudit.Source

theorem clamp_natCast (source : Text) (offset : Nat) : clamp source offset = .ok (min offset source.length) := by
  rw [clamp, if_neg (by omega), Int.toNat_natCast]

theorem position_natCast (source : Text) (offset : Nat) :
    position source offset = .ok (positionAt source (min offset source.length)) := by
  rw [position, clamp_natCast]
  rfl

/-- An offset in a source has the position of the place there. -/
theorem position_natCast_of_le {source : Text} {place : Nat} (hinside : place ≤ source.length) :
    position source place = .ok (positionAt source place) := by
  rw [position_natCast, Nat.min_eq_left hinside]

theorem line_natCast (source : Text) (offset : Nat) :
    line source offset = .ok (lineAt source (min offset source.length)) := by
  rw [line, clamp_natCast]
  rfl

/-- Only a negative offset stands for no place. -/
theorem exists_clamp_eq_error_iff {source : Text} {offset : Int} :
    (∃ error, clamp source offset = .error error) ↔ offset < 0 := by
  unfold clamp
  split
  · next hnegative => exact iff_of_true ⟨_, rfl⟩ hnegative
  · next hnonneg => exact iff_of_false (by rintro ⟨_, h⟩; cases h) hnonneg

theorem newline_not_mem_lineHead (before : Text) : '\n' ∉ lineHead before := by
  intro hmem
  have hkept := List.mem_takeWhile_imp (List.mem_reverse.mp hmem)
  exact absurd hkept (by decide)

theorem forall_ne_of_newline_not_mem {part : Text} (h : '\n' ∉ part) : ∀ c ∈ part, (c != '\n') = true := by
  intro c hc
  simp only [bne_iff_ne, ne_eq]
  rintro rfl
  exact h hc

theorem lineHead_append {part : Text} (h : '\n' ∉ part) (before : Text) :
    lineHead (before ++ part) = lineHead before ++ part := by
  have hkept : ∀ c ∈ part.reverse, (c != '\n') = true :=
    fun c hc => forall_ne_of_newline_not_mem h c (List.mem_reverse.mp hc)
  rw [lineHead, lineHead, List.reverse_append, List.takeWhile_append_of_pos hkept, List.reverse_append,
    List.reverse_reverse]

/-- What stands before a line feed does not belong to the lines after it. -/
theorem lineHead_newline (before after : Text) : lineHead (before ++ '\n' :: after) = lineHead after := by
  rw [lineHead, lineHead, List.reverse_append, List.reverse_cons, List.append_assoc, List.takeWhile_append]
  split
  · next hall =>
    rw [List.singleton_append, List.takeWhile_cons_of_neg (by decide), List.append_nil,
      (List.takeWhile_prefix _).eq_of_length hall]
  · rfl

end TemplateAudit.Source
