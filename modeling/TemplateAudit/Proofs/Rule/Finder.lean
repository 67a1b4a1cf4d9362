import TemplateAudit.Proofs.Markup.Layout
import TemplateAudit.Rule.Basic

namespace TemplateAudit

/-- The occurrences from an offset on are the places at which the needle starts there. -/
theorem Text.mem_occurrencesFrom_iff {needle : Text} (hneedle : needle ≠ []) {text : Text}
    {base offset : Nat} :
    offset ∈ Text.occurrencesFrom needle base text ↔
      base ≤ offset ∧ needle <+: text.drop (offset - base) := by
  induction text generalizing base with
  | nil => simp [Text.occurrencesFrom, hneedle]
  | cons c rest ih =>
    have htail : offset ∈ Text.occurrencesFrom needle (base + 1) rest ↔
        base < offset ∧ needle <+: (c :: rest).drop (offset - base) := by
      rw [ih, Nat.succ_le_iff]
      refine and_congr_right fun hlt => ?_
      rw [show offset - base = offset - (base + 1) + 1 by omega, List.drop_succ_cons]
    rw [Text.occurrencesFrom]
    split
    · next hprefix =>
      have hhere : needle <+: c :: rest := List.isPrefixOf_iff_prefix.mp hprefix
      rw [List.mem_cons, htail]
      constructor
      · rintro (rfl | ⟨hlt, hlater⟩)
        · rw [Nat.sub_self]
          exact ⟨Nat.le_refl _, hhere⟩
        · exact ⟨Nat.le_of_lt hlt, hlater⟩
      · rintro ⟨hle, hlater⟩
        obtain rfl | hlt := Nat.eq_or_lt_of_le hle
        · exact .inl rfl
        · exact .inr ⟨hlt, hlater⟩
    · next hprefix =>
      rw [htail]
      refine and_congr_left fun hlater => ⟨Nat.le_of_lt, fun hle => ?_⟩
      obtain rfl | hlt := Nat.eq_or_lt_of_le hle
      · rw [Nat.sub_self] at hlater
        exact absurd (List.isPrefixOf_iff_prefix.mpr hlater) hprefix
      · exact hlt

/-- A selector is found exactly where the text goes on with it. -/
theorem Text.mem_occurrences_iff {needle : Text} (hneedle : needle ≠ []) {text : Text} {offset : Nat} :
    offset ∈ text.occurrences needle ↔ needle <+: text.drop offset := by
  rw [Text.occurrences, Text.mem_occurrencesFrom_iff hneedle, Nat.sub_zero]
  exact and_iff_right (Nat.zero_le offset)

/-- A selector that is found is a slice of the text. -/
theorem Text.slice_of_mem_occurrences {needle : Text} (hneedle : needle ≠ []) {text : Text} {offset : Nat}
    (h : offset ∈ text.occurrences needle) :
    offset + needle.length ≤ text.length ∧ text.slice offset (offset + needle.length) = needle := by
  obtain ⟨rest, hrest⟩ := (Text.mem_occurrences_iff hneedle).mp h
  have hlength := congrArg List.length hrest
  have hpos := List.length_pos_iff.mpr hneedle
  rw [List.length_append, List.length_drop] at hlength
  exact ⟨by omega, Text.slice_of_drop hrest.symm rfl⟩

/-- Asking for names filters the tags of the text. -/
theorem mem_scanTags_some_iff {text : Text} {names : List Text} {tag : Tag} :
    tag ∈ scanTags text (some names) ↔
      tag ∈ scanTags text none ∧ ∃ name ∈ names, tag.name = name.lower := by
  simp only [scanTags, List.mem_filter, List.contains_iff_mem, List.mem_map]
  constructor
  · rintro ⟨htag, name, hname, heq⟩
    exact ⟨htag, name, hname, heq.symm⟩
  · rintro ⟨htag, name, hname, heq⟩
    exact ⟨htag, name, hname, heq.symm⟩

/-- An attribute matches if it has one of the kinds and the name, on a tag with one of the names. -/
theorem matchingAttributes_spec (kinds : List BindingKind) (text : Text) {name : Text}
    {tagNames : List Text} (hname : name ≠ []) (htagNames : ∃ tagName ∈ tagNames, tagName ≠ []) :
    ∃ found, matchingAttributes kinds text name tagNames = .ok found ∧ ∀ attr, attr ∈ found ↔
      (∃ tag ∈ scanTags text none, (∃ tagName ∈ tagNames, tagName ≠ [] ∧ tag.name = tagName.lower) ∧
        attr ∈ tag.attributes) ∧ attr.kind ∈ kinds ∧ attr.logicalName.lower = name.lower := by
  have hfilter : (tagNames.filter (!·.isEmpty)).isEmpty = false := by
    obtain ⟨tagName, hmem, hne⟩ := htagNames
    simp only [List.isEmpty_eq_false_iff_exists_mem, List.mem_filter]
    exact ⟨tagName, hmem, by simpa using hne⟩
  unfold matchingAttributes
  rw [if_neg (by simpa using hname), if_neg (by simp [hfilter])]
  refine ⟨_, rfl, fun attr => ?_⟩
  simp only [List.mem_filter, List.mem_flatMap, mem_scanTags_some_iff, Bool.and_eq_true,
    List.contains_iff_mem, beq_iff_eq]
  refine and_congr_left fun _ => ?_
  constructor
  · rintro ⟨tag, ⟨htag, tagName, ⟨hmem, hne⟩, heq⟩, hattr⟩
    exact ⟨tag, htag, ⟨tagName, hmem, by simpa using hne, heq⟩, hattr⟩
  · rintro ⟨tag, htag, ⟨tagName, hmem, hne, heq⟩, hattr⟩
    exact ⟨tag, ⟨htag, tagName, ⟨hmem, by simpa using hne⟩, heq⟩, hattr⟩

end TemplateAudit
