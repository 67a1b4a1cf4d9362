import TemplateAudit.Proofs.Diagnostic.Span
import TemplateAudit.Proofs.Markup.LastClose

namespace TemplateAudit

/-- Scanning with some of the built-in rules succeeds and finds matches of theirs. -/
theorem scan_of_builtin {rules : List Rule} (hrules : ∀ rule ∈ rules, rule ∈ Rule.builtin)
    (fragment : Fragment) :
    ∃ found, (scan fragment rules).value = .ok found ∧ ∀ diagnostic ∈ found,
      ∃ rule ∈ rules, ∃ offset : Nat, rule.MatchesAt fragment.text offset ∧
        diagnostic = (rule.diagnose offset).locate fragment :=
  scan_of_found fun rule hrule => Rule.builtin_finds fragment.text rule (hrules rule hrule)

/-- A token of the built-in rules is spelled without blanks and controls. -/
theorem Rule.visible_of_spelling {rule : Rule} (hrule : rule ∈ builtin) {spelled : Text}
    (h : spelled.map Char.toLower = rule.token.map Char.toLower) : ∀ c ∈ spelled, 0x20 < c.toNat := by
  have htokens : builtin.all fun rule =>
      (rule.token.map Char.toLower).all fun c => decide (0x20 < c.toNat) := by decide
  intro c hc
  have hvisible := List.all_eq_true.mp htokens rule hrule
  have hlower := of_decide_eq_true
    (List.all_eq_true.mp hvisible c.toLower (h ▸ List.mem_map_of_mem hc))
  unfold Char.toLower at hlower
  split at hlower
  · next hupper =>
    have hle : ('A' : Char).val.toNat ≤ c.val.toNat := hupper.1
    exact Nat.lt_of_lt_of_le (by decide) hle
  · exact hlower

/-- Around a text, a match in it is a part that spells the token. -/
theorem Rule.MatchesAt.exists_part {rule : Rule} {text source rest : Text} {base offset : Nat}
    (h : rule.MatchesAt text offset) (hdrop : source.drop base = text ++ rest) :
    ∃ marked, source.slice (base + offset) (base + (offset + rule.token.length)) = marked ∧
      source.drop (base + offset) = marked ++ source.drop (base + (offset + rule.token.length)) ∧
      marked.length = rule.token.length ∧ marked.map Char.toLower = rule.token.map Char.toLower := by
  have hslice := Text.slice_of_part hdrop offset h.inside
  have hspelling := h.spelling
  rw [← hslice] at hspelling
  refine ⟨_, rfl, (Text.slice_append_drop source (by omega)).symm, ?_, hspelling⟩
  simpa using congrArg List.length hspelling

/-- No attribute is found in a text without `>`. -/
theorem matchingAttributes_of_no_close {text : Text} (h : '>' ∉ text) (kinds : List BindingKind)
    {name : Text} (hname : name ≠ []) {tagName : Text} (htagName : tagName ≠ []) :
    matchingAttributes kinds text name [tagName] = .ok [] := by
  obtain ⟨found, hfound, hmem⟩ := matchingAttributes_spec kinds text hname
    ⟨tagName, List.mem_singleton.mpr rfl, htagName⟩
  have htags : scanTags text none = [] := by
    rw [scanTags, quickTags_eq_plainTags, plainTags, tagsBy_plainReader_of_no_close h]
  have hnone : found = [] := List.eq_nil_iff_forall_not_mem.mpr fun attr hattr => by
    obtain ⟨⟨tag, htag, _⟩, _⟩ := (hmem attr).mp hattr
    rw [htags] at htag
    exact absurd htag List.not_mem_nil
  rw [hfound, hnone]

/-- In a text without closed tags only the selector is found. -/
theorem scan_builtin_of_no_close {fragment : Fragment} (h : '>' ∉ fragment.text) :
    (scan fragment Rule.builtin).value =
      .ok ((fragment.text.occurrences Rule.focusTrapSelector.token).map fun offset : Nat =>
        (Rule.focusTrapSelector.diagnose offset).locate fragment) := by
  have hselector : (Rule.focusTrapSelector.find fragment.text).offsets =
      (fragment.text.occurrences Rule.focusTrapSelector.token).map Int.ofNat := rfl
  have hbinding : ∀ kinds, ∀ rule : Rule, ∀ tagName : Text, tagName ≠ [] →
      rule.find fragment.text = .ofOffsets ((matchingAttributes kinds fragment.text rule.token [tagName]).map
        (·.map Attribute.logicalStart)) → (rule.find fragment.text).offsets = [] := by
    intro kinds rule tagName htagName hfind
    rw [hfind, matchingAttributes_of_no_close h kinds rule.token_ne_nil htagName]
    rfl
  have hlistOption := hbinding [.output] Rule.listOptionSelectionChange "mat-list-option" (by decide) rfl
  have hdatepicker := hbinding [.output] Rule.datepickerSelectedChanged "mat-datepicker" (by decide) rfl
  have htoggleGroup := hbinding [.input, .plain] Rule.toggleGroupSelected "mat-button-toggle-group"
    (by decide) rfl
  rw [scan_of_not_refused (Rule.builtin_not_refused fragment.text)]
  simp only [Rule.builtin, List.flatMap_cons, List.flatMap_nil, hselector, hlistOption, hdatepicker,
    htoggleGroup, List.map_nil, List.append_nil, List.map_map]
  rfl

/-- If the selector stands in such a text once, it is all that is found. -/
theorem scan_builtin_of_once {fragment : Fragment} {offset : Nat} (h : '>' ∉ fragment.text)
    (honce : fragment.text.occurrences Rule.focusTrapSelector.token = [offset]) :
    (scan fragment Rule.builtin).value = .ok [(Rule.focusTrapSelector.diagnose offset).locate fragment] := by
  rw [scan_builtin_of_no_close h, honce]
  rfl

end TemplateAudit
