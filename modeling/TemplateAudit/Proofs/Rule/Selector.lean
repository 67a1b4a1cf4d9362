import Mathlib.Data.List.Perm.Subperm
import TemplateAudit.Proofs.Rule.Finder

namespace TemplateAudit

namespace Text

variable {needle : Text} (hneedle : needle ≠ [])

include hneedle

/-- The first occurrence comes first, and the others are those behind it. -/
theorem occurrencesFrom_eq (text : Text) (base : Nat) :
    occurrencesFrom needle base text =
      match splitAtFirst? needle text with
      | none => []
      | some (before, _) => (base + before.length) ::
          occurrencesFrom needle (base + before.length + 1) (text.drop (before.length + 1)) := by
  induction text generalizing base with
  | nil => simp [occurrencesFrom, splitAtFirst?, hneedle]
  | cons c rest ih =>
    rw [occurrencesFrom, splitAtFirst?]
    split
    · rfl
    · rw [ih]
      cases hsplit : splitAtFirst? needle rest with
      | none => rfl
      | some found =>
        obtain ⟨before, after⟩ := found
        simp only [Option.map_some, List.length_cons, List.drop_succ_cons]
        rw [show base + 1 + before.length = base + (before.length + 1) by omega]

/-- The occurrences from an offset on, by one search and the occurrences behind what it finds. -/
theorem occurrencesFrom_drop (text : Text) (start : Nat) :
    occurrencesFrom needle start (text.drop start) =
      match nextOccurrence? text needle start with
      | none => []
      | some offset => offset :: occurrencesFrom needle (offset + 1) (text.drop (offset + 1)) := by
  rw [nextOccurrence?]
  split_ifs with hstart
  · rw [occurrencesFrom_eq hneedle]
    cases hsplit : splitAtFirst? needle (text.drop start) with
    | none => rfl
    | some found =>
      obtain ⟨before, after⟩ := found
      simp only [Option.map_some, List.drop_drop, Nat.add_assoc]
  · rw [List.drop_eq_nil_of_le (by omega), occurrencesFrom, if_neg (by simpa using hneedle)]

/-- Searching one by one gives the occurrences in order, as many as are asked for. -/
theorem firstOccurrences_eq_take (text : Text) (count start : Nat) :
    firstOccurrences text needle count start =
      (occurrencesFrom needle start (text.drop start)).take count := by
  induction count generalizing start with
  | zero => rfl
  | succ count ih =>
    rw [firstOccurrences, occurrencesFrom_drop hneedle]
    cases nextOccurrence? text needle start with
    | none => rfl
    | some offset =>
      simp only [List.take_succ_cons]
      rw [ih]

theorem pairwise_occurrencesFrom (text : Text) (base : Nat) :
    (occurrencesFrom needle base text).Pairwise (· < ·) := by
  induction text generalizing base with
  | nil => simp [occurrencesFrom, hneedle]
  | cons c rest ih =>
    rw [occurrencesFrom]
    split
    · refine List.pairwise_cons.mpr ⟨fun offset hoffset => ?_, ih (base + 1)⟩
      exact ((mem_occurrencesFrom_iff hneedle).mp hoffset).1
    · exact ih (base + 1)

/-- A needle occurs exactly at the offsets at which it is a slice of the text. -/
theorem mem_occurrences_iff_slice {text : Text} {offset : Nat} :
    offset ∈ text.occurrences needle ↔
      offset + needle.length ≤ text.length ∧ text.slice offset (offset + needle.length) = needle := by
  refine ⟨slice_of_mem_occurrences hneedle, fun ⟨_, hslice⟩ => (mem_occurrences_iff hneedle).mpr ?_⟩
  rw [slice, Nat.add_sub_cancel_left] at hslice
  exact List.prefix_iff_eq_take.mpr hslice.symm

/-- There are no more occurrences than offsets at which the needle fits into the text. -/
theorem length_occurrences_le (text : Text) :
    (text.occurrences needle).length ≤ text.length + 1 - needle.length := by
  have hnodup : (text.occurrences needle).Nodup :=
    (pairwise_occurrencesFrom hneedle text 0).imp fun hlt => Nat.ne_of_lt hlt
  have hsubset : text.occurrences needle ⊆ List.range (text.length + 1 - needle.length) := by
    intro offset hoffset
    have hfits := ((mem_occurrences_iff_slice hneedle).mp hoffset).1
    exact List.mem_range.mpr (by omega)
  simpa using (List.subperm_of_subset hnodup hsubset).length_le

end Text

/-- An empty selector is refused, whether or not an offset is asked for. Any other selector is found exactly
    at the offsets at which the text has it as a slice, in ascending order and each once. Asked for one by
    one, the offsets are the same; and as there are only so many, asking comes to an end. -/
theorem findSelector_finds_all (text selector : Text) :
    (selector = [] → findSelector text selector = .error .emptyNeedle ∧
        ∀ count, findFirstSelectors text selector count = .error .emptyNeedle) ∧
      (selector ≠ [] → ∃ found, findSelector text selector = .ok found ∧ found.Pairwise (· < ·) ∧
        (∀ offset, offset ∈ found ↔ offset + selector.length ≤ text.length ∧
          text.slice offset (offset + selector.length) = selector) ∧
        (∀ count, findFirstSelectors text selector count = .ok (found.take count)) ∧
        found.length ≤ text.length + 1 - selector.length) := by
  constructor
  · rintro rfl
    exact ⟨rfl, fun count => rfl⟩
  · intro hselector
    have hnonempty : selector.isEmpty = false := by simpa using hselector
    refine ⟨text.occurrences selector, ?_, Text.pairwise_occurrencesFrom hselector text 0,
      fun offset => Text.mem_occurrences_iff_slice hselector, fun count => ?_,
      Text.length_occurrences_le hselector text⟩
    · rw [findSelector, hnonempty]
      rfl
    · rw [findFirstSelectors, hnonempty, Text.firstOccurrences_eq_take hselector, List.drop_zero]
      rfl

example : findFirstSelectors "aaaa" "aa" 2 = .ok [0, 1] := by decide

end TemplateAudit
