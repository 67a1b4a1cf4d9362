import TemplateAudit.Proofs.Diagnostic.Scan
import TemplateAudit.Proofs.Markup.Pieces
import TemplateAudit.Proofs.Rule.Finder
import TemplateAudit.Proofs.Text.LowerCaseLength

namespace TemplateAudit

/-- What a rule looks for: its token as it stands, or bindings of some kinds with the token for a name,
    on tags of some names. -/
inductive RuleTarget where
  | selector
  | binding (kinds : List BindingKind) (tagNames : List Text)
deriving DecidableEq, Repr

/-- The rule has been built against the target, for which some tag name must not be empty. -/
inductive Rule.BuiltFor : Rule → RuleTarget → Prop where
  | selector {rule : Rule} {name token : Text} {message : Message}
      (hrule : Rule.selector name token message = .ok rule) : BuiltFor rule .selector
  | output {rule : Rule} {name token : Text} {tagNames : List Text} {message : Message}
      (htag : ∃ tagName ∈ tagNames, tagName ≠ [])
      (hrule : Rule.output name token tagNames message = .ok rule) :
      BuiltFor rule (.binding [.output] tagNames)
  | input {rule : Rule} {name token : Text} {tagNames : List Text} {message : Message}
      (htag : ∃ tagName ∈ tagNames, tagName ≠ [])
      (hrule : Rule.input name token tagNames message = .ok rule) :
      BuiltFor rule (.binding [.input, .plain] tagNames)

/-- The diagnostic lies in its fragment and spans the given text there. -/
structure LocatedDiagnostic.Spans (diagnostic : LocatedDiagnostic) (fragment : Fragment)
    (matched : Text) : Prop where
  base_le : fragment.baseOffset ≤ diagnostic.start
  start_lt : diagnostic.start < diagnostic.stop
  stop_le : diagnostic.stop ≤ fragment.baseOffset + fragment.text.length
  slice : fragment.text.slice (diagnostic.start - fragment.baseOffset).toNat
    (diagnostic.stop - fragment.baseOffset).toNat = matched

/-- The diagnostic starts at the logical name of the attribute, which is a binding of the kinds on one of
    the tags and has the name of the token in lower case. -/
structure LocatedDiagnostic.Marks (diagnostic : LocatedDiagnostic) (rule : Rule)
    (kinds : List BindingKind) (tagNames : List Text) (fragment : Fragment) (attr : Attribute) : Prop where
  tag : ∃ tag ∈ scanTags fragment.text none, attr ∈ tag.attributes ∧
    ∃ tagName ∈ tagNames, tagName ≠ [] ∧ tag.name = tagName.lower
  kind : attr.kind ∈ kinds
  name : attr.logicalName.lower = rule.token.lower
  start : diagnostic.start = fragment.baseOffset + attr.logicalStart
  stop : diagnostic.stop = diagnostic.start + rule.token.length

/-- The diagnostic is a match of the rule. A selector is spanned as it stands. Of a binding the logical name
    is marked, and it is spanned exactly if it has as many dotted capitals as the token. -/
def LocatedDiagnostic.IsMatchOf (diagnostic : LocatedDiagnostic) (rule : Rule) (fragment : Fragment) :
    RuleTarget → Prop
  | .selector => diagnostic.Spans fragment rule.token
  | .binding kinds tagNames => ∃ attr, diagnostic.Marks rule kinds tagNames fragment attr ∧
      (diagnostic.Spans fragment attr.logicalName ↔
        attr.logicalName.count dottedCapitalI = rule.token.count dottedCapitalI) ∧
      (dottedCapitalI ∉ rule.token → combiningDot ∉ rule.token →
        diagnostic.Spans fragment attr.logicalName)

/-- A rule that is made has the token and the finder it is made from. -/
theorem Rule.make_eq_ok {name token : Text} {find : Text → FinderOutcome} {message : Message} {rule : Rule}
    (h : Rule.make name token find message = .ok rule) : rule.token = token ∧ rule.find = find := by
  unfold Rule.make at h
  split at h
  · cases h
  split at h
  · cases h
  · obtain rfl := Except.ok.inj h
    exact ⟨rfl, rfl⟩

/-- The diagnostic at an offset spans the text that follows for the length of the token. -/
theorem Rule.spans_diagnose_iff (rule : Rule) (fragment : Fragment) (offset : Nat) (matched : Text) :
    ((rule.diagnose offset).locate fragment).Spans fragment matched ↔
      offset + rule.token.length ≤ fragment.text.length ∧
        fragment.text.slice offset (offset + rule.token.length) = matched := by
  have hpos := List.length_pos_iff.mpr rule.token_ne_nil
  have hstart : (fragment.baseOffset + (offset : Int) - fragment.baseOffset).toNat = offset := by omega
  have hstop : (fragment.baseOffset + ((offset : Int) + (rule.token.length : Int)) -
      fragment.baseOffset).toNat = offset + rule.token.length := by omega
  constructor
  · rintro ⟨_, _, hinside, hslice⟩
    simp only [Diagnostic.locate, Rule.diagnose, hstart, hstop] at hinside hslice
    exact ⟨by omega, hslice⟩
  · rintro ⟨hinside, hslice⟩
    constructor
    case base_le =>
      simp only [Diagnostic.locate, Rule.diagnose]
      omega
    case start_lt =>
      simp only [Diagnostic.locate, Rule.diagnose]
      omega
    case stop_le =>
      simp only [Diagnostic.locate, Rule.diagnose]
      omega
    case slice =>
      simp only [Diagnostic.locate, Rule.diagnose, hstart, hstop]
      exact hslice

/-- A diagnostic at the logical name of an attribute spans it exactly if the token has its length. -/
theorem Rule.spans_logicalName_iff {rule : Rule} {fragment : Fragment} {tag : Tag}
    (htag : tag.LaidOut fragment.text) {attr : Attribute} (hattr : attr ∈ tag.attributes) :
    ((rule.diagnose attr.logicalStart).locate fragment).Spans fragment attr.logicalName ↔
      attr.logicalName.length = rule.token.length := by
  have hend := htag.logicalEnd_eq hattr
  have hinside := htag.logicalEnd_lt hattr
  rw [Rule.spans_diagnose_iff]
  constructor
  · rintro ⟨hle, hslice⟩
    rw [← hslice, Text.length_slice hle, Nat.add_sub_cancel_left]
  · intro hlength
    rw [← hlength, ← hend]
    exact ⟨Nat.le_of_lt hinside, (htag.attributes attr hattr).logicalName⟩

/-- Every offset of a binding finder is a match. -/
theorem Rule.binding_isMatchOf {rule : Rule} {fragment : Fragment} {kinds : List BindingKind}
    {tagNames : List Text} (htag : ∃ tagName ∈ tagNames, tagName ≠ [])
    (hfind : rule.find fragment.text = .ofOffsets
      ((matchingAttributes kinds fragment.text rule.token tagNames).map (·.map Attribute.logicalStart))) :
    ∃ offsets : List Nat, rule.find fragment.text = .found (offsets.map Int.ofNat) ∧
      ∀ offset ∈ offsets,
        ((rule.diagnose offset).locate fragment).IsMatchOf rule fragment (.binding kinds tagNames) := by
  obtain ⟨found, hfound, hmem⟩ := matchingAttributes_spec kinds fragment.text rule.token_ne_nil htag
  rw [hfound] at hfind
  refine ⟨found.map Attribute.logicalStart, hfind, fun offset hoffset => ?_⟩
  obtain ⟨attr, hattr, rfl⟩ := List.mem_map.mp hoffset
  obtain ⟨⟨tag, hscan, htagName, hinside⟩, hkind, hmatches⟩ := (hmem attr).mp hattr
  have hlaidOut := (tagsLaidOut_scanTags fragment.text none).tags tag hscan
  have hcounts := length_add_count_of_lower_eq hmatches
  have hspans : ((rule.diagnose attr.logicalStart).locate fragment).Spans fragment attr.logicalName ↔
      attr.logicalName.count dottedCapitalI = rule.token.count dottedCapitalI := by
    rw [Rule.spans_logicalName_iff hlaidOut hinside]
    omega
  refine ⟨attr, ⟨⟨tag, hscan, hinside, htagName⟩, hkind, hmatches, rfl, ?_⟩, hspans, ?_⟩
  · simp only [Diagnostic.locate, Rule.diagnose, Int.add_assoc]
  intro hdotted hdot
  rw [hspans, count_eq_zero_of_lower_eq hdotted hdot hmatches, List.count_eq_zero.mpr hdotted]

/-- A built rule finds matches of its target only. -/
theorem Rule.BuiltFor.finds {rule : Rule} {target : RuleTarget} (h : rule.BuiltFor target)
    (fragment : Fragment) :
    ∃ offsets : List Nat, rule.find fragment.text = .found (offsets.map Int.ofNat) ∧
      ∀ offset ∈ offsets, ((rule.diagnose offset).locate fragment).IsMatchOf rule fragment target := by
  cases h with
  | selector hrule =>
    obtain ⟨htoken, hfind⟩ := Rule.make_eq_ok hrule
    refine ⟨fragment.text.occurrences rule.token, ?_, fun offset hoffset => ?_⟩
    · have hne : rule.token.isEmpty = false := by simpa using rule.token_ne_nil
      rw [hfind, ← htoken, Rule.selectorFinder, findSelector, hne]
      rfl
    · exact (rule.spans_diagnose_iff fragment offset rule.token).mpr
        (Text.slice_of_mem_occurrences rule.token_ne_nil hoffset)
  | output htag hrule =>
    obtain ⟨rfl, hfind⟩ := Rule.make_eq_ok hrule
    exact Rule.binding_isMatchOf htag (by rw [hfind]; rfl)
  | input htag hrule =>
    obtain ⟨rfl, hfind⟩ := Rule.make_eq_ok hrule
    exact Rule.binding_isMatchOf htag (by rw [hfind]; rfl)

/-- Scanning with built rules succeeds, and every diagnostic is a match of the rule that it names. -/
theorem scan_built_matches {rules : List Rule} (hrules : ∀ rule ∈ rules, ∃ target, rule.BuiltFor target)
    (fragment : Fragment) :
    ∃ found, (scan fragment rules).value = .ok found ∧ ∀ diagnostic ∈ found,
      ∃ rule ∈ rules, diagnostic.rule = rule.name ∧
        ∀ target, rule.BuiltFor target → diagnostic.IsMatchOf rule fragment target := by
  have hfinds : ∀ rule ∈ rules, ∃ offsets : List Nat,
      rule.find fragment.text = .found (offsets.map Int.ofNat) ∧ ∀ offset ∈ offsets,
        ∀ target, rule.BuiltFor target →
          ((rule.diagnose offset).locate fragment).IsMatchOf rule fragment target := by
    intro rule hrule
    obtain ⟨target, hbuilt⟩ := hrules rule hrule
    obtain ⟨offsets, hfind, _⟩ := hbuilt.finds fragment
    refine ⟨offsets, hfind, fun offset hoffset other hother => ?_⟩
    -- Whatever else the rule is built for, its finder is one function and gives these offsets.
    obtain ⟨offsets', hfind', hmatches⟩ := hother.finds fragment
    have hsame : offsets.map Int.ofNat = offsets'.map Int.ofNat :=
      FinderOutcome.found.inj (hfind.symm.trans hfind')
    obtain rfl := List.map_injective_iff.mpr (fun _ _ h => Int.ofNat.inj h) hsame
    exact hmatches offset hoffset
  obtain ⟨found, hscan, hfound⟩ := scan_of_found hfinds
  refine ⟨found, hscan, fun diagnostic hdiagnostic => ?_⟩
  obtain ⟨rule, hrule, offset, hmatches, rfl⟩ := hfound diagnostic hdiagnostic
  exact ⟨rule, hrule, rfl, hmatches⟩

/-- Names in another case are spanned as they stand in the text. -/
theorem scan_built_matches_accented :
    ∃ selector output, Rule.selector "s" "<b" ⟨"m", []⟩ = .ok selector ∧
      Rule.output "o" "É" ["B"] ⟨"m", []⟩ = .ok output ∧
      let fragment : Fragment := ⟨"<b (é)>", -9, .inline, none⟩
      let tag : LocatedDiagnostic := ⟨"s", -9, -7, ⟨"m", []⟩, none⟩
      let event : LocatedDiagnostic := ⟨"o", -5, -4, ⟨"m", []⟩, none⟩
      (scan fragment [selector, output]).value = .ok [tag, event] ∧
        tag.Spans fragment "<b" ∧ event.Spans fragment "é" := by
  let selector : Rule := ⟨"s", "<b", Rule.selectorFinder "<b", ⟨"m", []⟩, by decide, by decide⟩
  let output : Rule := ⟨"o", "É", Rule.outputFinder "É" ["B"], ⟨"m", []⟩, by decide, by decide⟩
  let fragment : Fragment := ⟨"<b (é)>", -9, .inline, none⟩
  have hmade : Rule.selector "s" "<b" ⟨"m", []⟩ = .ok selector := rfl
  have hmade' : Rule.output "o" "É" ["B"] ⟨"m", []⟩ = .ok output := rfl
  have hselector : selector.BuiltFor .selector := .selector hmade
  have houtput : output.BuiltFor (.binding [.output] ["B"]) := .output ⟨"B", by decide, by decide⟩ hmade'
  have htags : scanTags "<b (é)>" none =
      [(WrittenTag.mk "b" [.blank ' ', .attribute "(é)" none]).locate 0] :=
    WrittenTag.Spells.scanTags_eq (by decide) (by decide)
  have hselected : selector.find fragment.text = .found [0] := by decide
  have hbound : output.find fragment.text = .found [4] := by
    have hquick : quickTags fragment.text = _ := htags
    simp only [output, Rule.outputFinder, findOutputs, matchingAttributes, scanTags, hquick]
    decide +kernel
  have hrules : ∀ rule ∈ [selector, output], ∃ target, rule.BuiltFor target := by
    simp only [List.forall_mem_cons]
    exact ⟨⟨_, hselector⟩, ⟨_, houtput⟩, by simp⟩
  obtain ⟨found, hscan, hfound⟩ := scan_built_matches hrules fragment
  have hvalue : (scan fragment [selector, output]).value =
      .ok [⟨"s", -9, -7, ⟨"m", []⟩, none⟩, ⟨"o", -5, -4, ⟨"m", []⟩, none⟩] := by
    simp only [scan, findDeprecations, hselected, hbound]
    rfl
  obtain rfl := Except.ok.inj (hscan.symm.trans hvalue)
  simp only [List.forall_mem_cons] at hfound
  obtain ⟨⟨rule, hrule, hname, hmatch⟩, ⟨rule', hrule', hname', hmatch'⟩, _⟩ := hfound
  have hfirst : rule = selector := by
    obtain rfl | hrule := List.mem_cons.mp hrule
    · rfl
    · rw [List.mem_singleton.mp hrule] at hname
      exact absurd hname (by decide)
  have hsecond : rule' = output := by
    obtain rfl | hrule' := List.mem_cons.mp hrule'
    · exact absurd hname' (by decide)
    · exact List.mem_singleton.mp hrule'
  rw [hfirst] at hmatch
  rw [hsecond] at hmatch'
  refine ⟨selector, output, hmade, hmade', hvalue, hmatch _ hselector, ?_⟩
  obtain ⟨attr, hmarks, _, hspans⟩ := hmatch' _ houtput
  obtain ⟨tag, htag, hattr, _⟩ := hmarks.tag
  rw [htags, List.mem_singleton] at htag
  subst htag
  obtain rfl := List.mem_singleton.mp hattr
  exact hspans (by decide) (by decide)

/-- A name of two dotted capitals matches a token of twice its length, and the diagnostic runs past the
    end of the fragment: it spans neither the name nor anything else. -/
theorem scan_overruns_dotted_capitals :
    ∃ rule, Rule.input "r" ['i', combiningDot, 'i', combiningDot] ["a"] ⟨"m", []⟩ = .ok rule ∧
      let fragment : Fragment := ⟨['<', 'a', ' ', dottedCapitalI, dottedCapitalI, '>'], 0, .inline, none⟩
      let diagnostic : LocatedDiagnostic := ⟨"r", 3, 7, ⟨"m", []⟩, none⟩
      (scan fragment [rule]).value = .ok [diagnostic] ∧
        fragment.baseOffset + fragment.text.length < diagnostic.stop ∧
        ∀ matched, ¬ diagnostic.Spans fragment matched := by
  let rule : Rule := ⟨"r", ['i', combiningDot, 'i', combiningDot],
    Rule.inputFinder ['i', combiningDot, 'i', combiningDot] ["a"], ⟨"m", []⟩, by decide, by decide⟩
  let text : Text := ['<', 'a', ' ', dottedCapitalI, dottedCapitalI, '>']
  have htags : scanTags text none =
      [(WrittenTag.mk "a" [.blank ' ', .attribute (.replicate 2 dottedCapitalI) none]).locate 0] :=
    WrittenTag.Spells.scanTags_eq (by decide) (by decide)
  have hfind : rule.find text = .found [3] := by
    have hquick : quickTags text = _ := htags
    simp only [rule, Rule.inputFinder, findInputs, matchingAttributes, scanTags, hquick]
    decide +kernel
  have hvalue : (scan ⟨text, 0, .inline, none⟩ [rule]).value = .ok [⟨"r", 3, 7, ⟨"m", []⟩, none⟩] := by
    simp only [scan, findDeprecations, hfind]
    rfl
  have houtside : ¬ (7 : Int) ≤ 0 + text.length := by decide
  exact ⟨rule, rfl, hvalue, Int.not_le.mp houtside, fun matched hspans => houtside hspans.stop_le⟩

end TemplateAudit
