import Mathlib.Data.List.Nodup
import TemplateAudit.Proofs.Markup.Pieces
import TemplateAudit.Proofs.Rule.Finder
import TemplateAudit.Proofs.Steps

namespace TemplateAudit

/-- The attribute stands on a tag with one of the names and has the given name, both up to lower case. Empty
    tag names do not count. -/
structure Attribute.IsNamed (attr : Attribute) (text name : Text) (tagNames : List Text) : Prop where
  tag : ∃ tag ∈ scanTags text none,
    (∃ tagName ∈ tagNames, tagName ≠ [] ∧ tag.name = tagName.lower) ∧ attr ∈ tag.attributes
  name : attr.logicalName.lower = name.lower

/-- Why bindings of a name on given tags cannot be looked for. The name is checked first. -/
inductive BindingRefused (name : Text) (tagNames : List Text) : ArgumentError → Prop where
  | unnamed (hname : name = []) : BindingRefused name tagNames .emptyBindingName
  | untagged (hname : name ≠ []) (htagNames : ∀ tagName ∈ tagNames, tagName = []) :
      BindingRefused name tagNames (.noTagNames name)

variable {text name : Text} {tagNames : List Text}

/-- The offset of a logical name belongs to one attribute of a text. -/
theorem Attribute.IsNamed.eq_of_logicalStart_eq {attr other : Attribute} (h : attr.IsNamed text name tagNames)
    (hother : other.IsNamed text name tagNames) (hstart : attr.logicalStart = other.logicalStart) :
    attr = other := by
  have hascending := (tagsLaidOut_scanTags text none).logicalStarts
  have hnodup : (((scanTags text none).flatMap Tag.attributes).map Attribute.logicalStart).Nodup :=
    hascending.imp fun hlt => Nat.ne_of_lt hlt
  have hmem : ∀ {attr : Attribute}, attr.IsNamed text name tagNames →
      attr ∈ (scanTags text none).flatMap Tag.attributes := by
    rintro attr ⟨⟨tag, htag, _, hattr⟩, _⟩
    exact List.mem_flatMap.mpr ⟨tag, htag, hattr⟩
  exact List.inj_on_of_nodup_map hnodup (hmem h) (hmem hother) hstart

/-- A search is refused exactly without a name, or else without a tag name. -/
theorem matchingAttributes_eq_error_iff {kinds : List BindingKind} {error : ArgumentError} :
    matchingAttributes kinds text name tagNames = .error error ↔ BindingRefused name tagNames error := by
  have hfilter : (tagNames.filter (!·.isEmpty)).isEmpty = true ↔ ∀ tagName ∈ tagNames, tagName = [] := by
    simp
  simp only [matchingAttributes]
  constructor
  · intro h
    split at h
    · next hname =>
      obtain rfl := Except.error.inj h
      exact .unnamed (by simpa using hname)
    · next hname =>
      split at h
      · next htagNames =>
        obtain rfl := Except.error.inj h
        exact .untagged (by simpa using hname) (hfilter.mp htagNames)
      · cases h
  · rintro (hname | ⟨hname, htagNames⟩)
    · rw [if_pos (by simpa using hname)]
    · rw [if_neg (by simpa using hname), if_pos (hfilter.mpr htagNames)]

/-- The attributes of some kinds are found in the order of the text. -/
theorem logicalStarts_of_matchingAttributes {kinds : List BindingKind} {found : List Attribute}
    (h : matchingAttributes kinds text name tagNames = .ok found) :
    (found.map Attribute.logicalStart).Pairwise (· < ·) := by
  simp only [matchingAttributes] at h
  split at h
  · cases h
  split at h
  · cases h
  · obtain rfl := Except.ok.inj h
    exact (tagsLaidOut_scanTags text _).logicalStarts.sublist (List.filter_sublist.map _)

/-- The offsets of the bindings of some kinds ascend and are those of the attributes with the name. -/
theorem exists_offsets_of_kinds (kinds : List BindingKind) (text : Text) (hname : name ≠ [])
    (htagNames : ∃ tagName ∈ tagNames, tagName ≠ []) :
    ∃ offsets, (matchingAttributes kinds text name tagNames).map (·.map Attribute.logicalStart) = .ok offsets ∧
      offsets.Pairwise (· < ·) ∧
      ∀ offset, offset ∈ offsets ↔
        ∃ attr : Attribute, attr.IsNamed text name tagNames ∧ attr.kind ∈ kinds ∧ attr.logicalStart = offset := by
  obtain ⟨found, hfound, hmem⟩ := matchingAttributes_spec kinds text hname htagNames
  refine ⟨found.map Attribute.logicalStart, by rw [hfound]; rfl,
    logicalStarts_of_matchingAttributes hfound, fun offset => ?_⟩
  rw [List.mem_map]
  refine exists_congr fun attr => ?_
  rw [hmem attr]
  constructor
  · rintro ⟨⟨htag, hkind, hlower⟩, hstart⟩
    exact ⟨⟨htag, hlower⟩, hkind, hstart⟩
  · rintro ⟨⟨htag, hlower⟩, hkind, hstart⟩
    exact ⟨⟨htag, hkind, hlower⟩, hstart⟩

/-- The finders refuse an empty name, and a name for which there is no tag, and nothing else. Otherwise each
    gives ascending offsets, no offset is given by both, and together they give those of all attributes with
    the name: the finder of outputs those of the outputs, the finder of inputs those of the inputs and of the
    plain attributes. -/
theorem findOutputs_findInputs_share (text name : Text) (tagNames : List Text) :
    (∀ error, findOutputs text name tagNames = .error error ↔ BindingRefused name tagNames error) ∧
      (∀ error, findInputs text name tagNames = .error error ↔ BindingRefused name tagNames error) ∧
      ((∃ error, BindingRefused name tagNames error) ↔ name = [] ∨ ∀ tagName ∈ tagNames, tagName = []) ∧
      (name ≠ [] → (∃ tagName ∈ tagNames, tagName ≠ []) → ∃ outputs inputs,
        findOutputs text name tagNames = .ok outputs ∧ findInputs text name tagNames = .ok inputs ∧
        outputs.Pairwise (· < ·) ∧ inputs.Pairwise (· < ·) ∧ (∀ offset ∈ outputs, offset ∉ inputs) ∧
        (∀ offset, offset ∈ outputs ∨ offset ∈ inputs ↔
          ∃ attr : Attribute, attr.IsNamed text name tagNames ∧ attr.logicalStart = offset) ∧
        (∀ offset, offset ∈ outputs ↔ ∃ attr : Attribute, attr.IsNamed text name tagNames ∧
          attr.kind = .output ∧ attr.logicalStart = offset) ∧
        ∀ offset, offset ∈ inputs ↔ ∃ attr : Attribute, attr.IsNamed text name tagNames ∧
          (attr.kind = .input ∨ attr.kind = .plain) ∧ attr.logicalStart = offset) := by
  refine ⟨fun error => ?_, fun error => ?_, ?_, fun hname htagNames => ?_⟩
  · rw [findOutputs, map_eq_error_iff, matchingAttributes_eq_error_iff]
  · rw [findInputs, map_eq_error_iff, matchingAttributes_eq_error_iff]
  · constructor
    · rintro ⟨_, hname | ⟨_, htagNames⟩⟩
      · exact .inl hname
      · exact .inr htagNames
    · intro h
      by_cases hname : name = []
      · exact ⟨_, .unnamed hname⟩
      · exact ⟨_, .untagged hname (h.resolve_left hname)⟩
  obtain ⟨outputs, houtputs, hascOutputs, hmemOutputs⟩ :=
    exists_offsets_of_kinds [.output] text hname htagNames
  obtain ⟨inputs, hinputs, hascInputs, hmemInputs⟩ :=
    exists_offsets_of_kinds [.input, .plain] text hname htagNames
  simp only [List.mem_cons, List.not_mem_nil, or_false] at hmemOutputs hmemInputs
  refine ⟨outputs, inputs, houtputs, hinputs, hascOutputs, hascInputs, ?_, fun offset => ?_, hmemOutputs,
    hmemInputs⟩
  · intro offset hoffset hinput
    obtain ⟨output, houtput, hkind, rfl⟩ := (hmemOutputs offset).mp hoffset
    obtain ⟨input, hnamed, hkind', hstart⟩ := (hmemInputs output.logicalStart).mp hinput
    obtain rfl := hnamed.eq_of_logicalStart_eq houtput hstart
    rw [hkind] at hkind'
    obtain h | h := hkind' <;> cases h
  · rw [hmemOutputs, hmemInputs]
    constructor
    · rintro (⟨attr, hattr, _, hstart⟩ | ⟨attr, hattr, _, hstart⟩)
      · exact ⟨attr, hattr, hstart⟩
      · exact ⟨attr, hattr, hstart⟩
    · rintro ⟨attr, hattr, hstart⟩
      cases hkind : attr.kind with
      | plain => exact .inr ⟨attr, hattr, .inr hkind, hstart⟩
      | input => exact .inr ⟨attr, hattr, .inl hkind, hstart⟩
      | output => exact .inl ⟨attr, hattr, hkind, hstart⟩

/-- The bindings of an accented name in either case, after one on a tag that is not asked for. -/
theorem findOutputs_findInputs_share_accented :
    let text : Text := "<p é><B (é)=x É [é]>"
    findOutputs text "É" ["", "b"] = .ok [9] ∧ findInputs text "É" ["", "b"] = .ok [14, 17] ∧
      ∀ offset : Nat, offset ∈ [9, 14, 17] ↔
        ∃ attr : Attribute, attr.IsNamed text "É" ["", "b"] ∧ attr.logicalStart = offset := by
  intro text
  let other : WrittenTag := ⟨"p", [.blank ' ', .attribute "é" none]⟩
  let bound : WrittenTag := ⟨"B", [.blank ' ', .attribute "(é)" (some ⟨"", "", .bare "x"⟩), .blank ' ',
    .attribute "É" none, .blank ' ', .attribute "[é]" none]⟩
  have hother : other.Spells "<p é>" := by decide
  have hbound : scanTags "<B (é)=x É [é]>" none = [bound.locate 0] :=
    WrittenTag.Spells.scanTags_eq (by decide) (by decide)
  have hquick : quickTags text = [other.locate 0, (bound.locate 0).shift 5] := by
    have happend := (hother.walksThrough (by decide)).scanTags_append "<B (é)=x É [é]>" none
    have htext : text = ("<p é>" : Text) ++ "<B (é)=x É [é]>" := by decide +kernel
    rw [hother.scanTags_eq (by decide), hbound] at happend
    rw [htext]
    exact happend
  have houtputs : findOutputs text "É" ["", "b"] = .ok [9] := by
    simp only [findOutputs, matchingAttributes, scanTags, hquick]
    decide +kernel
  have hinputs : findInputs text "É" ["", "b"] = .ok [14, 17] := by
    simp only [findInputs, matchingAttributes, scanTags, hquick]
    decide +kernel
  obtain ⟨_, _, _, hshare⟩ := findOutputs_findInputs_share text "É" ["", "b"]
  obtain ⟨outputs, inputs, hout, hin, _, _, _, htogether, _, _⟩ :=
    hshare (by decide) ⟨"b", by decide, by decide⟩
  obtain rfl := Except.ok.inj (houtputs.symm.trans hout)
  obtain rfl := Except.ok.inj (hinputs.symm.trans hin)
  exact ⟨houtputs, hinputs, fun offset => by simpa using htogether offset⟩

end TemplateAudit
