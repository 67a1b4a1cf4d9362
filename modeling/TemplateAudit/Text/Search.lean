import TemplateAudit.Text.Basic

namespace TemplateAudit

namespace Text

/-- Offsets of the places of `text` where `needle` starts, the first character counted as
    `offset`. -/
def occurrencesFrom (needle : Text) (offset : Nat) : Text → List Nat
  | [] => if needle.isEmpty then [offset] else []
  | c :: rest =>
    if needle.isPrefixOf (c :: rest) then offset :: occurrencesFrom needle (offset + 1) rest
    else occurrencesFrom needle (offset + 1) rest

/-- The ascending offsets of all occurrences of `needle`, overlapping ones included. -/
def occurrences (text needle : Text) : List Nat := occurrencesFrom needle 0 text

/-- What stands before the first occurrence of `needle`, and what follows that occurrence. -/
def splitAtFirst? (needle : Text) : Text → Option (Text × Text)
  | [] => if needle.isEmpty then some ([], []) else none
  | c :: rest =>
    if needle.isPrefixOf (c :: rest) then some ([], (c :: rest).drop needle.length)
    else (splitAtFirst? needle rest).map fun (before, after) => (c :: before, after)

/-- The offset of the first occurrence of `needle` at `start` or later. -/
def nextOccurrence? (text needle : Text) (start : Nat) : Option Nat :=
  if start ≤ text.length then
    (splitAtFirst? needle (text.drop start)).map fun (before, _) => start + before.length
  else none

/-- The first `count` occurrences of `needle` at `start` or later, looked for one by one: each search
    starts one character behind the occurrence before. -/
def firstOccurrences (text needle : Text) : Nat → Nat → List Nat
  | 0, _ => []
  | count + 1, start =>
    match nextOccurrence? text needle start with
    | none => []
    | some offset => offset :: firstOccurrences text needle count (offset + 1)

/-- A split loses nothing: the text is what stands before, the needle, and what follows. -/
theorem append_of_splitAtFirst? {needle text before after : Text}
    (h : splitAtFirst? needle text = some (before, after)) : text = before ++ needle ++ after := by
  induction text generalizing before with
  | nil =>
    simp only [splitAtFirst?] at h
    split at h
    · simp_all
    · simp at h
  | cons c rest ih =>
    simp only [splitAtFirst?] at h
    split at h
    · next hprefix =>
      obtain ⟨tail, htail⟩ := List.isPrefixOf_iff_prefix.mp hprefix
      simp only [Option.some.injEq, Prod.mk.injEq] at h
      obtain ⟨rfl, rfl⟩ := h
      rw [← htail]
      simp
    · simp only [Option.map_eq_some_iff, Prod.exists, Prod.mk.injEq] at h
      obtain ⟨before', after', hrest, rfl, rfl⟩ := h
      simp [ih hrest]

end Text

end TemplateAudit
