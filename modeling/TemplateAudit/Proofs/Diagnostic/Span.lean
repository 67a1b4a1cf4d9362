import TemplateAudit.Proofs.Diagnostic.Scan
import TemplateAudit.Proofs.Rule.Finder
import TemplateAudit.Proofs.Text.LowerCase
import TemplateAudit.Rule.Builtin

namespace TemplateAudit

/-- The fragment is a literal of the source, or all of it. -/
def Fragment.IsOf (fragment : Fragment) (source : Text) : Prop :=
  (∃ start stop path, Fragment.inline source start stop path = .ok fragment) ∨
    ∃ path, fragment = Fragment.external source path

/-- The built-in rules about bindings, by name, with the tag on which each of them looks. -/
def Rule.builtinTags : List (Text × Text) :=
  [(listOptionSelectionChange.name, "mat-list-option"),
   (datepickerSelectedChanged.name, "mat-datepicker"),
   (toggleGroupSelected.name, "mat-button-toggle-group")]

/-- The diagnostic of a built-in rule lies in its fragment and covers the token as the source spells
    it: exactly for the selector, up to the case of ASCII letters for a binding. The match of a binding
    is the whole logical name of an attribute, on the tag that the rule is about. -/
structure LocatedDiagnostic.Covers (diagnostic : LocatedDiagnostic) (rule : Rule)
    (fragment : Fragment) (source : Text) : Prop where
  name : diagnostic.rule = rule.name
  base_nonneg : 0 ≤ fragment.baseOffset
  base_le : fragment.baseOffset ≤ diagnostic.start
  start_lt : diagnostic.start < diagnostic.stop
  stop_le : diagnostic.stop ≤ fragment.baseOffset + fragment.text.length
  length : (source.slice diagnostic.start.toNat diagnostic.stop.toNat).length = rule.token.length
  spelling : (source.slice diagnostic.start.toNat diagnostic.stop.toNat).map Char.toLower =
    rule.token.map Char.toLower
  selector : rule.name = Rule.focusTrapSelector.name →
    source.slice diagnostic.start.toNat diagnostic.stop.toNat = rule.token
  binding : ∀ tagName ∈ Rule.builtinTags.lookup rule.name,
    ∃ tag ∈ scanTags fragment.text none, tag.name = tagName ∧ tag.LaidOut fragment.text ∧
      ∃ attr ∈ tag.attributes, diagnostic.start = fragment.baseOffset + attr.logicalStart ∧
        diagnostic.stop = fragment.baseOffset + attr.logicalEnd

/-- What a built-in rule finds at an offset of a text. -/
structure Rule.MatchesAt (rule : Rule) (text : Text) (offset : Nat) : Prop where
  inside : offset + rule.token.length ≤ text.length
  spelling : (text.slice offset (offset + rule.token.length)).map Char.toLower =
    rule.token.map Char.toLower
  selector : rule.name = focusTrapSelector.name →
    text.slice offset (offset + rule.token.length) = rule.token
  binding : ∀ tagName ∈ builtinTags.lookup rule.name,
    ∃ tag ∈ scanTags text none, tag.name = tagName ∧ tag.LaidOut text ∧
      ∃ attr ∈ tag.attributes, offset = attr.logicalStart ∧
        offset + rule.token.length = attr.logicalEnd

/-- From the place of a fragment its source goes on with the text of the fragment. -/
theorem Fragment.IsOf.drop_eq {fragment : Fragment} {source : Text} (h : fragment.IsOf source) :
    ∃ (base : Nat) (rest : Text), fragment.baseOffset = base ∧
      source.drop base = fragment.text ++ rest := by
  obtain ⟨start, stop, path, hinline⟩ | ⟨path, rfl⟩ := h
  · obtain ⟨hstart, _, _, rfl⟩ := Fragment.span_of_inline hinline
    exact ⟨start.toNat, _, (Int.toNat_of_nonneg hstart).symm, (List.take_append_drop _ _).symm⟩
  · exact ⟨0, [], rfl, (List.append_nil source).symm⟩

/-- A diagnostic of a fragment starts behind the base offset and is as long as the token. -/
theorem Rule.locate_diagnose (rule : Rule) (offset : Nat) {fragment : Fragment} {base : Nat}
    (hbase : fragment.baseOffset = base) :
    (rule.diagnose offset).locate fragment =
      { rule := rule.name
        start := ↑(base + offset)
        stop := ↑(base + (offset + rule.token.length))
        message := rule.message
        path := fragment.path } := by
  simp only [Diagnostic.locate, Rule.diagnose, hbase, Int.natCast_add]

/-- A match in the text of a fragment is covered by its diagnostic in the source. -/
theorem Rule.MatchesAt.covers {rule : Rule} {fragment : Fragment} {source : Text} {offset : Nat}
    (h : rule.MatchesAt fragment.text offset) (hfragment : fragment.IsOf source) :
    ((rule.diagnose offset).locate fragment).Covers rule fragment source := by
  obtain ⟨base, rest, hbase, hsource⟩ := hfragment.drop_eq
  have htoken : 0 < rule.token.length := List.length_pos_iff.mpr rule.token_ne_nil
  have hinside := h.inside
  have hslice := Text.slice_of_part hsource offset hinside
  rw [Rule.locate_diagnose rule offset hbase]
  constructor
  case name => rfl
  case base_nonneg => omega
  case base_le =>
    show fragment.baseOffset ≤ ((base + offset : Nat) : Int)
    omega
  case start_lt =>
    show ((base + offset : Nat) : Int) < ((base + (offset + rule.token.length) : Nat) : Int)
    omega
  case stop_le =>
    show ((base + (offset + rule.token.length) : Nat) : Int) ≤ _
    omega
  case length =>
    rw [Int.toNat_natCast, Int.toNat_natCast, hslice, Text.length_slice hinside, Nat.add_sub_cancel_left]
  case spelling =>
    rw [Int.toNat_natCast, Int.toNat_natCast, hslice]
    exact h.spelling
  case selector =>
    rw [Int.toNat_natCast, Int.toNat_natCast, hslice]
    exact h.selector
  case binding =>
    intro tagName htagName
    obtain ⟨tag, htag, hname, hlaidOut, attr, hattr, hlogical, hend⟩ := h.binding tagName htagName
    refine ⟨tag, htag, hname, hlaidOut, attr, hattr, ?_, ?_⟩
    · rw [hbase, ← hlogical]
      exact Int.natCast_add base offset
    · rw [hbase, ← hend]
      exact Int.natCast_add base (offset + rule.token.length)

theorem Rule.lookup_focusTrapSelector : builtinTags.lookup focusTrapSelector.name = none := by
  decide +kernel

/-- Where the rule finds its selector, the text spells the token. -/
theorem Rule.focusTrapSelector_finds (text : Text) :
    ∃ offsets : List Nat, focusTrapSelector.find text = .found (offsets.map Int.ofNat) ∧
      ∀ offset ∈ offsets, focusTrapSelector.MatchesAt text offset := by
  refine ⟨text.occurrences focusTrapSelector.token, rfl, fun offset hoffset => ?_⟩
  obtain ⟨hinside, hslice⟩ := Text.slice_of_mem_occurrences focusTrapSelector.token_ne_nil hoffset
  constructor
  case inside => exact hinside
  case spelling => rw [hslice]
  case selector => exact fun _ => hslice
  case binding =>
    intro tagName htagName
    rw [lookup_focusTrapSelector] at htagName
    cases htagName

/-- An attribute that matches a plain ASCII token has a logical name of its length, spelled like it
    up to the case of letters. -/
theorem spelling_of_matches {text token : Text} (htoken : ∀ c ∈ token, isPlainAscii c = true)
    {tag : Tag} (htag : tag.LaidOut text) {attr : Attribute} (hattr : attr ∈ tag.attributes)
    (hmatches : attr.logicalName.lower = token.lower) :
    attr.logicalEnd = attr.logicalStart + token.length ∧
      (text.slice attr.logicalStart attr.logicalEnd).map Char.toLower = token.map Char.toLower := by
  have hspelling := map_toLower_of_lower_eq htoken hmatches
  have hlength := congrArg List.length hspelling
  rw [List.length_map, List.length_map] at hlength
  rw [(htag.attributes attr hattr).logicalName, htag.logicalEnd_eq hattr, hlength]
  exact ⟨rfl, hspelling⟩

/-- Where a rule finds a binding, an attribute of its tag has the token for its logical name. -/
theorem Rule.binding_finds {rule : Rule} {text : Text} (kinds : List BindingKind) (tagName : Text)
    (hfind : rule.find text = .ofOffsets
      ((matchingAttributes kinds text rule.token [tagName]).map (·.map Attribute.logicalStart)))
    (htoken : rule.token.all isPlainAscii = true) (hne : tagName ≠ [])
    (hlower : tagName.lower = tagName) (hlookup : builtinTags.lookup rule.name = some tagName) :
    ∃ offsets : List Nat, rule.find text = .found (offsets.map Int.ofNat) ∧
      ∀ offset ∈ offsets, rule.MatchesAt text offset := by
  obtain ⟨found, hfound, hmem⟩ := matchingAttributes_spec kinds text rule.token_ne_nil
    ⟨tagName, List.mem_singleton.mpr rfl, hne⟩
  rw [hfound] at hfind
  refine ⟨found.map Attribute.logicalStart, hfind, fun offset hoffset => ?_⟩
  obtain ⟨attr, hattr, rfl⟩ := List.mem_map.mp hoffset
  obtain ⟨⟨tag, htag, ⟨other, hother, _, htagName⟩, hinside⟩, _, hmatches⟩ := (hmem attr).mp hattr
  obtain rfl := List.mem_singleton.mp hother
  rw [hlower] at htagName
  have hlaidOut := (tagsLaidOut_scanTags text none).tags tag htag
  obtain ⟨hend, hspelling⟩ := spelling_of_matches (List.all_eq_true.mp htoken) hlaidOut hinside hmatches
  constructor
  case inside =>
    have hlength := hlaidOut.logicalEnd_lt hinside
    omega
  case spelling =>
    rw [← hend]
    exact hspelling
  case selector =>
    intro hselector
    rw [hselector, lookup_focusTrapSelector] at hlookup
    cases hlookup
  case binding =>
    intro named hnamed
    obtain rfl := Option.mem_unique hlookup hnamed
    exact ⟨tag, htag, htagName, hlaidOut, attr, hinside, rfl, hend.symm⟩

/-- Every built-in rule finds matches only. -/
theorem Rule.builtin_finds (text : Text) : ∀ rule ∈ builtin,
    ∃ offsets : List Nat, rule.find text = .found (offsets.map Int.ofNat) ∧
      ∀ offset ∈ offsets, rule.MatchesAt text offset := by
  simp only [builtin, List.forall_mem_cons]
  refine ⟨focusTrapSelector_finds text, ?_, ?_, ?_, fun rule hrule => absurd hrule List.not_mem_nil⟩
  · exact binding_finds [.output] "mat-list-option" rfl (by decide) (by decide) (by decide) (by decide)
  · exact binding_finds [.output] "mat-datepicker" rfl (by decide) (by decide) (by decide) (by decide)
  · exact binding_finds [.input, .plain] "mat-button-toggle-group" rfl (by decide) (by decide) (by decide)
      (by decide)

theorem Rule.builtin_not_refused (text : Text) :
    ∀ rule ∈ builtin, ∀ error, rule.find text ≠ .refused error := by
  intro rule hrule error hrefused
  obtain ⟨offsets, hfind, _⟩ := builtin_finds text rule hrule
  rw [hfind] at hrefused
  cases hrefused

/-- Scanning a fragment of a source with the built-in rules succeeds, and every diagnostic covers, in
    the source, a match of the rule it names. -/
theorem scan_builtin_covers {source : Text} {fragment : Fragment} (hfragment : fragment.IsOf source) :
    ∃ found, (scan fragment Rule.builtin).value = .ok found ∧ ∀ diagnostic ∈ found,
      ∃ rule ∈ Rule.builtin, diagnostic.Covers rule fragment source := by
  refine ⟨_, scan_of_not_refused (Rule.builtin_not_refused fragment.text), fun diagnostic hmem => ?_⟩
  obtain ⟨relative, hrelative, rfl⟩ := List.mem_map.mp hmem
  obtain ⟨rule, hrule, hoffsets⟩ := List.mem_flatMap.mp hrelative
  obtain ⟨offset, hoffset, rfl⟩ := List.mem_map.mp hoffsets
  obtain ⟨positions, hfind, hmatches⟩ := Rule.builtin_finds fragment.text rule hrule
  rw [hfind, FinderOutcome.offsets_found] at hoffset
  obtain ⟨position, hposition, rfl⟩ := List.mem_map.mp hoffset
  exact ⟨rule, hrule, (hmatches position hposition).covers hfragment⟩

/-- In the literal of `a = '<cdk-focus-trap>'` the selector is reported where the source has it. -/
theorem scan_builtin_covers_literal :
    ∃ fragment found diagnostic,
      Fragment.inline "a = '<cdk-focus-trap>'" 4 22 none = .ok fragment ∧
      (scan fragment Rule.builtin).value = .ok found ∧ diagnostic ∈ found ∧
      diagnostic.start = 6 ∧ diagnostic.stop = 20 ∧
      ∃ rule ∈ Rule.builtin, diagnostic.Covers rule fragment "a = '<cdk-focus-trap>'" := by
  let fragment : Fragment := ⟨"'<cdk-focus-trap>'", 4, .inline, none⟩
  have hinline : Fragment.inline "a = '<cdk-focus-trap>'" 4 22 none = .ok fragment := rfl
  obtain ⟨found, hfound, hcovers⟩ := scan_builtin_covers (.inl ⟨4, 22, none, hinline⟩)
  have hmem : (Rule.focusTrapSelector.diagnose 2).locate fragment ∈ found := by
    rw [scan_of_not_refused (Rule.builtin_not_refused fragment.text)] at hfound
    obtain rfl := Except.ok.inj hfound
    have hoffset : 2 ∈ (Rule.focusTrapSelector.find fragment.text).offsets := by decide
    have hrelative := List.mem_map_of_mem (f := Rule.focusTrapSelector.diagnose) hoffset
    exact List.mem_map_of_mem (List.mem_flatMap.mpr ⟨_, List.mem_cons_self, hrelative⟩)
  exact ⟨fragment, found, _, hinline, hfound, hmem, rfl, rfl, hcovers _ hmem⟩

end TemplateAudit
