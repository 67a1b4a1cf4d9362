import TemplateAudit.Proofs.Rule.Bindings
import TemplateAudit.Proofs.Text.AsciiCase

namespace TemplateAudit

/-- The name of a tag as the text has it: what stands behind its `<`, up to a blank, a slash or the `>`. -/
def Tag.nameIn (tag : Tag) (text : Text) : Text := (text.drop (tag.start + 1)).takeWhile staysInTagName

/-- The logical name of an attribute as the text has it. -/
def Attribute.logicalNameIn (attr : Attribute) (text : Text) : Text := text.slice attr.logicalStart attr.logicalEnd

/-- The tag is found in the text and the attribute on it, the written name of the tag counts as one of the tag names,
    and the written logical name of the attribute counts as the name. -/
structure WrittenBinding (same : Text → Text → Prop) (text name : Text) (tagNames : List Text) (tag : Tag)
    (attr : Attribute) : Prop where
  tag_mem : tag ∈ scanTags text none
  attr_mem : attr ∈ tag.attributes
  tagName : ∃ tagName ∈ tagNames, same (tag.nameIn text) tagName
  name : same (attr.logicalNameIn text) name

/-- The written name of a tag that is located where it is written. -/
theorem WrittenTag.Spells.nameIn_locate {written : WrittenTag} {part : Text} (h : written.Spells part)
    {text rest : Text} {start : Nat} (htext : text.drop start = part ++ rest) :
    (written.locate start).nameIn text = written.name := by
  obtain ⟨body, rfl, hname, hbody⟩ := h
  have hne : body ≠ [] := List.ne_nil_of_mem hbody.close_mem
  rw [List.cons_append, List.append_assoc] at htext
  have hdrop : text.drop ((written.locate start).start + 1) = written.name ++ (body ++ rest) :=
    (Text.drop_eq_cons htext).2
  rw [Tag.nameIn, hdrop]
  exact ((Text.isLongestRun_append_iff hne rest).mpr hname).takeWhile_eq

theorem staysInTagName_of_isAlpha {c : Char} (h : c.isAlpha = true) : staysInTagName c = true := by
  have hall : ∀ n < 0x80, (Char.ofNat n).isAlpha = true → staysInTagName (Char.ofNat n) = true := by decide
  have hascii : c.toNat < 0x80 := by
    have hupper : 'Z'.val.toNat < 0x80 := by decide
    have hlower : 'z'.val.toNat < 0x80 := by decide
    delta Char.isAlpha Char.isUpper Char.isLower at h
    simp only [Bool.or_eq_true, Bool.and_eq_true, decide_eq_true_eq, ge_iff_le, UInt32.le_iff_toNat_le] at h
    obtain ⟨_, hlast⟩ | ⟨_, hlast⟩ := h
    · exact Nat.lt_of_le_of_lt hlast hupper
    · exact Nat.lt_of_le_of_lt hlast hlower
  revert h
  exact of_ascii hall c hascii

/-- Every tag that the walk finds is written where it is found, and a letter stands behind its `<`. -/
theorem exists_spells_of_mem_tagsBy {text : Text} {offset : Nat} {tag : Tag}
    (h : tag ∈ tagsBy plainReader () offset (text.drop offset)) :
    ∃ start written part after c rest, tag = WrittenTag.locate written start ∧ written.Spells part ∧
      text.drop start = part ++ after ∧ text.drop start = '<' :: c :: rest ∧ c.isAlpha = true := by
  induction hlength : text.length - offset using Nat.strong_induction_on generalizing offset with
  | h length ih =>
    rw [tagsBy_eq_stop] at h
    cases hstop : Stop.of (text.drop offset) with
    | finish =>
      rw [hstop] at h
      exact absurd h List.not_mem_nil
    | advance count =>
      obtain ⟨hpos, hle⟩ := Stop.advance_bounds hstop
      rw [List.length_drop] at hle
      simp only [hstop, List.drop_drop] at h
      exact ih _ (by omega) h rfl
    | tryTag =>
      obtain ⟨c, rest, htext, hletter⟩ := Stop.tryTag_text hstop
      have hinside := congrArg List.length htext
      rw [List.length_drop, List.length_cons] at hinside
      rw [hstop] at h
      simp only [plainReader, htext, List.tail_cons] at h
      cases hread : WrittenTag.read? (c :: rest) with
      | none =>
        simp only [hread, Option.map_none] at h
        rw [← (Text.drop_eq_cons htext).2] at h
        exact ih _ (by omega) h rfl
      | some outcome =>
        obtain ⟨written, after⟩ := outcome
        simp only [hread, Option.map_some, ← htext, List.drop_drop] at h
        obtain rfl | hlater := List.mem_cons.mp h
        · obtain ⟨part, hpart, hspells⟩ := WrittenTag.read?_eq_some_iff.mp hread
          exact ⟨offset, written, part, after, c, rest, rfl, hspells, htext.trans hpart, htext, hletter⟩
        · have hpos := written.length_text_pos
          exact ih _ (by omega) hlater rfl

/-- A found tag is named by what the text has there, in lower case, and that is not empty. -/
theorem name_of_mem_scanTags {text : Text} {tag : Tag} (h : tag ∈ scanTags text none) :
    tag.nameIn text ≠ [] ∧ tag.name = (tag.nameIn text).lower := by
  rw [scanTags, quickTags_eq_plainTags, plainTags, ← List.drop_zero (l := text)] at h
  obtain ⟨start, written, part, after, c, rest, rfl, hspells, hpart, htext, hletter⟩ :=
    exists_spells_of_mem_tagsBy h
  constructor
  · have hname : text.drop ((written.locate start).start + 1) = c :: rest := (Text.drop_eq_cons htext).2
    rw [Tag.nameIn, hname, List.takeWhile_cons_of_pos (staysInTagName_of_isAlpha hletter)]
    exact List.cons_ne_nil _ _
  · rw [hspells.nameIn_locate hpart]
    rfl

section Ascii

variable {text name : Text} {tagNames : List Text} (hascii : ∀ c ∈ name, c.toNat < 0x80)
  (htagNames : ∀ tagName ∈ tagNames, ∀ c ∈ tagName, c.toNat < 0x80)

include hascii htagNames

/-- For ASCII names, an attribute has them in lower case exactly if they are written so but for letter case and Kelvin
    signs. -/
theorem isNamed_iff_writtenBinding {attr : Attribute} :
    attr.IsNamed text name tagNames ↔ ∃ tag, WrittenBinding Text.KelvinCaseEq text name tagNames tag attr := by
  have hlogical : ∀ tag ∈ scanTags text none, attr ∈ tag.attributes → attr.logicalNameIn text = attr.logicalName :=
    fun tag htag hattr => (((tagsLaidOut_scanTags text none).tags tag htag).attributes attr hattr).logicalName
  constructor
  · rintro ⟨⟨tag, htag, ⟨tagName, hmem, _, hsame⟩, hattr⟩, hname⟩
    refine ⟨tag, htag, hattr, ⟨tagName, hmem, ?_⟩, ?_⟩
    · rw [(name_of_mem_scanTags htag).2] at hsame
      exact (Text.lower_eq_lower_iff (htagNames tagName hmem)).mp hsame
    · rw [hlogical tag htag hattr]
      exact (Text.lower_eq_lower_iff hascii).mp hname
  · rintro ⟨tag, htag, hattr, ⟨tagName, hmem, hsame⟩, hname⟩
    obtain ⟨hne, hlower⟩ := name_of_mem_scanTags htag
    rw [hlogical tag htag hattr] at hname
    have htagName : tagName ≠ [] := by
      rintro rfl
      exact hne (List.map_eq_nil_iff.mp (List.map_eq_nil_iff.mp hsame))
    have hequal := (Text.lower_eq_lower_iff (htagNames tagName hmem)).mpr hsame
    exact ⟨⟨tag, htag, ⟨tagName, hmem, htagName, hlower.trans hequal⟩, hattr⟩,
      (Text.lower_eq_lower_iff hascii).mpr hname⟩

/-- The offsets of the bindings of some kinds are those of the bindings that are written with the names, but for letter
    case and Kelvin signs. -/
theorem mem_offsets_iff_writtenBinding {kinds : List BindingKind} {offsets : List Nat}
    (h : (matchingAttributes kinds text name tagNames).map (·.map Attribute.logicalStart) = .ok offsets)
    (offset : Nat) :
    offset ∈ offsets ↔ ∃ tag attr, WrittenBinding Text.KelvinCaseEq text name tagNames tag attr ∧
      attr.kind ∈ kinds ∧ attr.logicalStart = offset := by
  have haccepted : ¬ ∃ error, BindingRefused name tagNames error := by
    rintro ⟨error, herror⟩
    rw [matchingAttributes_eq_error_iff.mpr herror] at h
    cases h
  have hname : name ≠ [] := fun hempty => haccepted ⟨_, .unnamed hempty⟩
  have hsome : ∃ tagName ∈ tagNames, tagName ≠ [] := by
    by_contra hnone
    push Not at hnone
    exact haccepted ⟨_, .untagged hname hnone⟩
  obtain ⟨found, hfound, _, hmem⟩ := exists_offsets_of_kinds kinds text hname hsome
  obtain rfl := Except.ok.inj (h.symm.trans hfound)
  rw [hmem]
  simp only [isNamed_iff_writtenBinding hascii htagNames]
  constructor
  · rintro ⟨attr, ⟨tag, hbinding⟩, hkind, hstart⟩
    exact ⟨tag, attr, hbinding, hkind, hstart⟩
  · rintro ⟨tag, attr, hbinding, hkind, hstart⟩
    exact ⟨attr, ⟨tag, hbinding⟩, hkind, hstart⟩

/-- Letter case alone makes the difference to the names exactly if no Kelvin sign stands in what is written. -/
theorem writtenBinding_asciiCaseEq_iff {tag : Tag} {attr : Attribute} :
    WrittenBinding Text.AsciiCaseEq text name tagNames tag attr ↔
      WrittenBinding Text.KelvinCaseEq text name tagNames tag attr ∧
        kelvinSign ∉ tag.nameIn text ∧ kelvinSign ∉ attr.logicalNameIn text := by
  constructor
  · rintro ⟨htag, hattr, ⟨tagName, hmem, hsame⟩, hname⟩
    obtain ⟨hsame, hnoTag⟩ := (Text.asciiCaseEq_iff (htagNames tagName hmem)).mp hsame
    obtain ⟨hname, hnoName⟩ := (Text.asciiCaseEq_iff hascii).mp hname
    exact ⟨⟨htag, hattr, ⟨tagName, hmem, hsame⟩, hname⟩, hnoTag, hnoName⟩
  · rintro ⟨⟨htag, hattr, ⟨tagName, hmem, hsame⟩, hname⟩, hnoTag, hnoName⟩
    exact ⟨htag, hattr, ⟨tagName, hmem, (Text.asciiCaseEq_iff (htagNames tagName hmem)).mpr ⟨hsame, hnoTag⟩⟩,
      (Text.asciiCaseEq_iff hascii).mpr ⟨hname, hnoName⟩⟩

end Ascii

/-- Asked for an ASCII name on tags with ASCII names, of which one must not be empty, the finders report the bindings
    of their kinds that are written with these names but for the case of ASCII letters and for Kelvin signs that stand
    for a `k`. Those written without Kelvin signs are the ones that differ in letter case alone. -/
theorem findOutputs_findInputs_letter_case (text : Text) {name : Text} {tagNames : List Text} (hname : name ≠ [])
    (hascii : ∀ c ∈ name, c.toNat < 0x80) (htagNames : ∀ tagName ∈ tagNames, ∀ c ∈ tagName, c.toNat < 0x80) :
    ((∃ tagName ∈ tagNames, tagName ≠ []) →
        (∃ outputs, findOutputs text name tagNames = .ok outputs) ∧
          ∃ inputs, findInputs text name tagNames = .ok inputs) ∧
      (∀ outputs, findOutputs text name tagNames = .ok outputs → ∀ offset, offset ∈ outputs ↔
        ∃ tag attr, WrittenBinding Text.KelvinCaseEq text name tagNames tag attr ∧
          attr.kind = .output ∧ attr.logicalStart = offset) ∧
      (∀ inputs, findInputs text name tagNames = .ok inputs → ∀ offset, offset ∈ inputs ↔
        ∃ tag attr, WrittenBinding Text.KelvinCaseEq text name tagNames tag attr ∧
          (attr.kind = .input ∨ attr.kind = .plain) ∧ attr.logicalStart = offset) ∧
      ∀ tag attr, WrittenBinding Text.AsciiCaseEq text name tagNames tag attr ↔
        WrittenBinding Text.KelvinCaseEq text name tagNames tag attr ∧
          kelvinSign ∉ tag.nameIn text ∧ kelvinSign ∉ attr.logicalNameIn text := by
  refine ⟨fun hsome => ⟨?_, ?_⟩, fun outputs houtputs offset => ?_, fun inputs hinputs offset => ?_,
    fun tag attr => writtenBinding_asciiCaseEq_iff hascii htagNames⟩
  · obtain ⟨outputs, houtputs, _⟩ := exists_offsets_of_kinds [.output] text hname hsome
    exact ⟨outputs, houtputs⟩
  · obtain ⟨inputs, hinputs, _⟩ := exists_offsets_of_kinds [.input, .plain] text hname hsome
    exact ⟨inputs, hinputs⟩
  · rw [mem_offsets_iff_writtenBinding hascii htagNames houtputs]
    simp only [List.mem_singleton]
  · rw [mem_offsets_iff_writtenBinding hascii htagNames hinputs]
    simp only [List.mem_cons, List.not_mem_nil, or_false]

/-- Capitals on both sides, with an input of the name; the last output has a Kelvin sign. -/
theorem findOutputs_findInputs_letter_case_capitals :
    let text : Text := "<LI (oK)=x Ok (o\u212a)>"
    findOutputs text "OK" ["", "li"] = .ok [5, 15] ∧ findInputs text "OK" ["", "li"] = .ok [11] ∧
      ∀ offset : Nat, offset ∈ [5, 15] ↔
        ∃ tag attr, WrittenBinding Text.KelvinCaseEq text "OK" ["", "li"] tag attr ∧
          attr.kind = .output ∧ attr.logicalStart = offset := by
  intro text
  let written : WrittenTag := ⟨"LI", [.blank ' ', .attribute "(oK)" (some ⟨"", "", .bare "x"⟩), .blank ' ',
    .attribute "Ok" none, .blank ' ', .attribute "(o\u212a)" none]⟩
  have htags : scanTags text none = [written.locate 0] :=
    WrittenTag.Spells.scanTags_eq (by decide) (by decide)
  have hquick : quickTags text = [written.locate 0] := htags
  have houtputs : findOutputs text "OK" ["", "li"] = .ok [5, 15] := by
    simp only [findOutputs, matchingAttributes, scanTags, hquick]
    decide +kernel
  have hinputs : findInputs text "OK" ["", "li"] = .ok [11] := by
    simp only [findInputs, matchingAttributes, scanTags, hquick]
    decide +kernel
  have hname : ("OK" : Text) ≠ [] := by decide
  have hascii : ∀ c ∈ ("OK" : Text), c.toNat < 0x80 := by simp
  have htagNames : ∀ tagName ∈ ["".toList, "li"], ∀ c ∈ tagName, c.toNat < 0x80 := by simp
  obtain ⟨_, hreported, _, _⟩ := findOutputs_findInputs_letter_case text hname hascii htagNames
  exact ⟨houtputs, hinputs, hreported _ houtputs⟩

/-- A Kelvin sign is reported for a `k`, although it is no `k` in any case of ASCII letters. -/
theorem findOutputs_reports_kelvin :
    let text : Text := "<a (\u212a)>"
    findOutputs text "k" ["a"] = .ok [4] ∧
      ¬ ∃ tag attr, WrittenBinding Text.AsciiCaseEq text "k" ["a"] tag attr ∧ attr.logicalStart = 4 := by
  intro text
  let written : WrittenTag := ⟨"a", [.blank ' ', .attribute "(\u212a)" none]⟩
  have htags : scanTags text none = [written.locate 0] :=
    WrittenTag.Spells.scanTags_eq (by decide) (by decide)
  have hquick : quickTags text = [written.locate 0] := htags
  refine ⟨?_, ?_⟩
  · simp only [findOutputs, matchingAttributes, scanTags, hquick]
    decide +kernel
  · rintro ⟨tag, attr, ⟨htag, hattr, _, hname⟩, _⟩
    rw [htags, List.mem_singleton] at htag
    subst htag
    obtain rfl := List.mem_singleton.mp hattr
    exact absurd hname (by decide)

end TemplateAudit
