import TemplateAudit.Proofs.Markup.Machine.Reading

namespace TemplateAudit

namespace TagMachine

variable {text : Text} {machine next : TagMachine}

/-- The registers hold the name, so the noted attribute is the written one in its place. -/
theorem noted_eq_locate {name rest : Text} {assignment : Option Assignment}
    (htext : text.drop machine.nameStart = name ++ (Assignment.spelling assignment ++ rest))
    (hname : machine.nameEnd = machine.nameStart + name.length) :
    machine.noted text (assignment.map (Assignment.span machine.nameEnd)) =
      Attribute.locate name assignment machine.nameStart := by
  have hslice : text.slice machine.nameStart machine.nameEnd = name := Text.slice_of_drop htext hname
  have hvalue : (assignment.map (Assignment.span machine.nameEnd)).map
      (fun span => (⟨text.slice span.1 span.2, span.1, span.2⟩ : AttributeValue)) =
        assignment.map (·.locate (machine.nameStart + name.length)) := by
    cases assignment with
    | none => rfl
    | some assignment =>
      have hvalue := Assignment.drop_value (Text.drop_append htext)
      rw [← hname] at hvalue ⊢
      simp only [Option.map_some, Assignment.span, Assignment.locate]
      cases hwritten : assignment.value with
      | quoted mark body =>
        simp only [hwritten, WrittenValue.text, List.cons_append, List.append_assoc] at hvalue
        have hbody := (Text.drop_eq_cons hvalue).2
        simp only [WrittenValue.span, Text.slice_of_drop hbody rfl]
      | bare body =>
        simp only [hwritten, WrittenValue.text] at hvalue
        simp only [WrittenValue.span, Text.slice_of_drop hvalue rfl]
  simp only [noted, Attribute.locate, hslice, hvalue]
  rw [hname]

/-- The tag that the machine gives if exactly these items follow before the closing `>`. -/
def closedAfter (machine : TagMachine) (items : List TagItem) : Tag :=
  { name := machine.tagName
    attributes := machine.attributes ++ TagItem.locateAttributes machine.position items
    start := machine.tagStart
    stop := machine.position + (items.flatMap TagItem.text).length + 1
    selfClosing := TagItem.closesItself machine.slash items }

/-- The machine reads one attribute as the grammar does, and fails where that fails. -/
theorem run_attribute {c : Char} {rest : Text} (hstate : machine.state = .beforeAttributeName)
    (htext : text.drop machine.position = c :: rest) (hc : staysInTagName c = true) :
    match TagItem.read? (c :: rest) with
    | none => run text machine = none
    | some (item, remaining) => ∃ next, run text machine = run text next ∧
        next.state = .beforeAttributeName ∧ text.drop next.position = remaining ∧
        ∀ items, next.closedAfter items = machine.closedAfter (item :: items) := by
  have hfirst := hc
  simp only [staysInTagName, Bool.and_eq_true, Bool.not_eq_true', bne_iff_ne] at hfirst
  obtain ⟨⟨hblank, hslash⟩, hclose⟩ := hfirst
  obtain ⟨hget, hrest⟩ := Text.drop_eq_cons htext
  let started : TagMachine := { machine with
    state := .attributeName
    slash := false
    nameStart := machine.position
    position := machine.position + 1 }
  have hmoved : run text machine = run text started := by
    apply run_of_moved
    simp only [step, hget, hstate, hclose, hslash, hblank, Bool.false_eq_true, if_false, started]
  let stop := machine.position + 1 + (rest.takeWhile staysInAttributeName).length
  let named : TagMachine := { started with state := .afterAttributeName, nameEnd := stop, position := stop }
  have hnamed : run text started = run text named :=
    run_attributeName rfl (by simp only [started, stop, hrest])
  have hafter : text.drop named.position = rest.dropWhile staysInAttributeName := by
    have hdrop := Text.drop_add_length_takeWhile staysInAttributeName text (machine.position + 1)
    rw [hrest] at hdrop
    exact hdrop
  have hassigned := run_afterAttributeName text (show named.state = .afterAttributeName from rfl)
  rw [hafter] at hassigned
  rw [TagItem.read?, if_neg (by simp [hblank]), if_neg hslash, not_endsAttributeName]
  cases hread : Assignment.read? (rest.dropWhile staysInAttributeName) with
  | none =>
    rw [hread] at hassigned
    exact hmoved.trans (hnamed.trans hassigned)
  | some found =>
    obtain ⟨assignment, remaining⟩ := found
    rw [hread] at hassigned
    obtain ⟨next, hnext, hresumes⟩ := hassigned
    have hspelled := (Assignment.fits_of_read? hread).1
    refine ⟨next, hmoved.trans (hnamed.trans hnext), hresumes.state, ?_, fun items => ?_⟩
    · rw [hresumes.position]
      rw [hspelled] at hafter
      exact Text.drop_append hafter
    · have hwritten : text.drop machine.position =
          (c :: rest.takeWhile staysInAttributeName) ++ (Assignment.spelling assignment ++ remaining) := by
        rw [htext, ← hspelled, List.cons_append, List.takeWhile_append_dropWhile]
      have hlength : stop = machine.position + (c :: rest.takeWhile staysInAttributeName).length := by
        rw [List.length_cons]
        omega
      have hnoted : named.noted text (assignment.map (Assignment.span stop)) =
          Attribute.locate (c :: rest.takeWhile staysInAttributeName) assignment machine.position :=
        noted_eq_locate hwritten hlength
      have hposition : next.position = machine.position +
          (TagItem.attribute (c :: rest.takeWhile staysInAttributeName) assignment).text.length := by
        rw [hresumes.position, TagItem.text_attribute, List.length_append, ← Nat.add_assoc, ← hlength]
      have hattributes : next.attributes = machine.attributes ++
          [Attribute.locate (c :: rest.takeWhile staysInAttributeName) assignment machine.position] := by
        rw [hresumes.attributes]
        exact congrArg (machine.attributes ++ [·]) hnoted
      rw [closedAfter, closedAfter, hresumes.tagName, hresumes.tagStart, hresumes.slash, hattributes,
        hposition, TagItem.locateAttributes, TagItem.closesItself, List.append_assoc,
        List.flatMap_cons, List.length_append, Nat.add_assoc machine.position]
      rfl

/-- One item: the machine fails where no item can be read, and otherwise is between attributes again
    where the item ends. -/
theorem run_item {c : Char} {rest : Text} (hstate : machine.state = .beforeAttributeName)
    (htext : text.drop machine.position = c :: rest) (hclose : c ≠ '>') :
    match TagItem.read? (c :: rest) with
    | none => run text machine = none
    | some (item, remaining) => ∃ next, run text machine = run text next ∧
        next.state = .beforeAttributeName ∧ text.drop next.position = remaining ∧
        ∀ items, next.closedAfter items = machine.closedAfter (item :: items) := by
  obtain ⟨hget, hrest⟩ := Text.drop_eq_cons htext
  by_cases hslash : c = '/'
  · subst hslash
    have hread : TagItem.read? ('/' :: rest) = some (.slash, rest) := rfl
    rw [hread]
    refine ⟨{ machine with slash := true, position := machine.position + 1 }, ?_, hstate, hrest, ?_⟩
    · apply run_of_moved
      simp only [step, hget, hstate, hclose, if_false, if_true]
    · intro items
      simp only [closedAfter, TagItem.locateAttributes, TagItem.closesItself, TagItem.text,
        List.flatMap_cons, List.length_append, List.length_singleton, Nat.add_assoc]
  by_cases hblank : isBlank c = true
  · have hread : TagItem.read? (c :: rest) = some (.blank c, rest) := by
      rw [TagItem.read?, if_pos hblank]
    rw [hread]
    refine ⟨{ machine with position := machine.position + 1 }, ?_, hstate, hrest, ?_⟩
    · apply run_of_moved
      simp only [step, hget, hstate, hclose, hslash, hblank, if_false, if_true]
    · intro items
      simp only [closedAfter, TagItem.locateAttributes, TagItem.closesItself, TagItem.text,
        List.flatMap_cons, List.length_append, List.length_singleton, Nat.add_assoc]
  · exact run_attribute hstate htext (by simp [staysInTagName, hblank, hslash, hclose])

/-- The whole run: from between two attributes the machine closes the tag exactly when items up to the
    closing `>` can be read. -/
theorem run_beforeAttributeName (hstate : machine.state = .beforeAttributeName) :
    run text machine = (TagItem.readAll? (text.drop machine.position)).map fun (items, _) =>
      machine.closedAfter items := by
  induction hlength : (text.drop machine.position).length using Nat.strong_induction_on
    generalizing machine with
  | h length ih =>
    cases htext : text.drop machine.position with
    | nil =>
      rw [run_at_end machine htext, TagItem.readAll?]
      rfl
    | cons c rest =>
      by_cases hclose : c = '>'
      · subst hclose
        have hget := (Text.drop_eq_cons htext).1
        rw [run_of_closed (by simp only [step, hget, hstate, if_true]), TagItem.readAll?_close]
        simp [closedAfter, finished, TagItem.locateAttributes, TagItem.closesItself]
      have hhead : (c :: rest).head? ≠ some '>' := by simpa using hclose
      have hitem := run_item hstate htext hclose
      cases hread : TagItem.read? (c :: rest) with
      | none =>
        rw [hread] at hitem
        rw [TagItem.readAll?_of_unreadable hhead hread]
        exact hitem
      | some found =>
        obtain ⟨item, remaining⟩ := found
        rw [hread] at hitem
        obtain ⟨next, hrun, hnext, hdrop, hclosed⟩ := hitem
        have hshorter : (text.drop next.position).length < length := by
          rw [← hlength, hdrop, htext]
          exact TagItem.length_of_read? hread
        rw [hrun, ih _ hshorter hnext rfl, hdrop, TagItem.readAll?_of_readable hhead hread,
          Option.map_map]
        simp only [hclosed, Function.comp_def]

/-- The machine, started from scratch at a `<`, finds the tag that is read there. -/
theorem tagAt?_eq_read? (text : Text) (start : Nat) :
    tagAt? text start =
      (WrittenTag.read? (text.drop (start + 1))).map fun (tag, _) => tag.locate start := by
  have hends : (fun c => !(isBlank c || c == '/' || c == '>')) = fun c => !endsTagName c := rfl
  rw [tagAt?, run_beforeAttributeName rfl, WrittenTag.read?, Option.map_map, hends]
  simp only
  rw [Text.drop_add_length_takeWhile]
  congr 1
  funext parts
  simp [closedAfter, WrittenTag.locate, WrittenTag.text]
  omega

end TagMachine

end TemplateAudit
