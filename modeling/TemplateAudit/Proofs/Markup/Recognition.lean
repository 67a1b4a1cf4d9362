import TemplateAudit.Proofs.Markup.Memory

namespace TemplateAudit

/-- Whether an item is an attribute. -/
def TagItem.isAttribute : TagItem → Bool
  | .attribute _ _ => true
  | _ => false

@[simp]
theorem TagItem.isAttribute_blank (c : Char) : (TagItem.blank c).isAttribute = false := rfl

@[simp]
theorem TagItem.isAttribute_slash : TagItem.slash.isAttribute = false := rfl

@[simp]
theorem TagItem.isAttribute_attribute (name : Text) (assignment : Option Assignment) :
    (TagItem.attribute name assignment).isAttribute = true := rfl

/-- The attribute is the one with this name and assignment whose name starts at `offset`. The span of a
    value leaves out its quotes. -/
structure Attribute.IsWritten (attr : Attribute) (name : Text) (assignment : Option Assignment)
    (offset : Nat) : Prop where
  rawName : attr.rawName = name
  nameStart : attr.nameStart = offset
  nameEnd : attr.nameEnd = offset + name.length
  unassigned : assignment = none → attr.value = none
  quoted : ∀ before after mark body, assignment = some ⟨before, after, .quoted mark body⟩ →
    attr.value = some
      { text := body
        start := offset + (name ++ before ++ ['='] ++ after ++ [mark]).length
        stop := offset + (name ++ before ++ ['='] ++ after ++ [mark] ++ body).length }
  bare : ∀ before after body, assignment = some ⟨before, after, .bare body⟩ →
    attr.value = some
      { text := body
        start := offset + (name ++ before ++ ['='] ++ after).length
        stop := offset + (name ++ before ++ ['='] ++ after ++ body).length }

/-- The tag reports the derivation that starts at `offset`: its name in lower case, its attributes in
    order and in their places, and whether a slash stands after the last of them. -/
structure Tag.Reports (tag : Tag) (written : WrittenTag) (offset : Nat) : Prop where
  start : tag.start = offset
  name : tag.name = written.name.lower
  count : tag.attributes.length = written.items.countP TagItem.isAttribute
  attributes : ∀ before name assignment after,
    written.items = before ++ .attribute name assignment :: after →
      ∃ attr, tag.attributes[before.countP TagItem.isAttribute]? = some attr ∧
        attr.IsWritten name assignment
          (offset + ('<' :: written.name ++ before.flatMap TagItem.text).length)
  selfClosing : tag.selfClosing = true ↔
    ∃ before after, written.items = before ++ .slash :: after ∧
      ∀ item ∈ after, item.isAttribute = false

/-- An attribute is located as it is written. -/
theorem Attribute.isWritten_locate (name : Text) (assignment : Option Assignment) (offset : Nat) :
    (Attribute.locate name assignment offset).IsWritten name assignment offset where
  rawName := rfl
  nameStart := rfl
  nameEnd := rfl
  unassigned := by
    rintro rfl
    rfl
  quoted := by
    rintro before after mark body rfl
    simp only [Attribute.locate, Assignment.locate, Option.map_some, List.length_append,
      List.length_singleton, Nat.add_assoc]
  bare := by
    rintro before after body rfl
    simp only [Attribute.locate, Assignment.locate, Option.map_some, List.length_append,
      List.length_singleton, Nat.add_assoc]

theorem TagItem.length_locateAttributes (offset : Nat) (items : List TagItem) :
    (TagItem.locateAttributes offset items).length = items.countP TagItem.isAttribute := by
  induction items generalizing offset with
  | nil => rfl
  | cons item items ih =>
    cases item <;> simp [TagItem.locateAttributes, List.countP_cons, ih]

/-- The attributes before an attribute give its index, and the items before it its offset. -/
theorem TagItem.getElem?_locateAttributes (offset : Nat) (before after : List TagItem) (name : Text)
    (assignment : Option Assignment) :
    (TagItem.locateAttributes offset (before ++ .attribute name assignment :: after))[
      before.countP TagItem.isAttribute]? =
        some (Attribute.locate name assignment (offset + (before.flatMap TagItem.text).length)) := by
  induction before generalizing offset with
  | nil => simp [TagItem.locateAttributes]
  | cons item before ih =>
    rw [List.flatMap_cons, List.length_append, ← Nat.add_assoc, List.cons_append]
    cases item <;> simp [TagItem.locateAttributes, List.countP_cons, ih]

/-- A slash after the last attribute stands among the later items, or comes first before items without
    attributes. -/
theorem TagItem.exists_slash_cons_iff (item : TagItem) (items : List TagItem) :
    (∃ before after : List TagItem, item :: items = before ++ .slash :: after ∧
        ∀ item ∈ after, item.isAttribute = false) ↔
      (∃ before after : List TagItem, items = before ++ .slash :: after ∧
        ∀ item ∈ after, item.isAttribute = false) ∨
      (item = .slash ∧ ∀ item ∈ items, item.isAttribute = false) := by
  constructor
  · rintro ⟨before, after, hitems, hafter⟩
    cases before with
    | nil =>
      simp only [List.nil_append, List.cons.injEq] at hitems
      obtain ⟨rfl, rfl⟩ := hitems
      exact .inr ⟨rfl, hafter⟩
    | cons first before =>
      simp only [List.cons_append, List.cons.injEq] at hitems
      exact .inl ⟨before, after, hitems.2, hafter⟩
  · rintro (⟨before, after, rfl, hafter⟩ | ⟨rfl, hitems⟩)
    · exact ⟨item :: before, after, rfl, hafter⟩
    · exact ⟨[], items, rfl, hitems⟩

/-- A tag closes itself when a slash stands after the last attribute, or has been seen earlier and no
    attribute follows. -/
theorem TagItem.closesItself_iff (seen : Bool) (items : List TagItem) :
    TagItem.closesItself seen items = true ↔
      (∃ before after : List TagItem, items = before ++ .slash :: after ∧
        ∀ item ∈ after, item.isAttribute = false) ∨
      (seen = true ∧ ∀ item ∈ items, item.isAttribute = false) := by
  induction items generalizing seen with
  | nil => simp [TagItem.closesItself]
  | cons item items ih =>
    rw [TagItem.exists_slash_cons_iff, List.forall_mem_cons]
    match item with
    | .blank c => simp [TagItem.closesItself, ih]
    | .slash =>
      simp only [TagItem.closesItself, ih, TagItem.isAttribute_slash, true_and]
      constructor
      · exact .inl
      · rintro (h | ⟨_, h⟩)
        · exact h
        · exact .inr h
    | .attribute name assignment => simp [TagItem.closesItself, ih]

/-- A tag is located as it is written. -/
theorem WrittenTag.locate_reports (written : WrittenTag) (offset : Nat) :
    (written.locate offset).Reports written offset where
  start := rfl
  name := rfl
  count := TagItem.length_locateAttributes _ _
  attributes := by
    intro before name assignment after hitems
    refine ⟨_, ?_, Attribute.isWritten_locate name assignment _⟩
    rw [WrittenTag.locate, hitems, TagItem.getElem?_locateAttributes]
    simp only [List.length_append, List.length_cons]
    congr 2
    omega
  selfClosing := by
    rw [WrittenTag.locate, TagItem.closesItself_iff]
    simp

/-- Reading without memory and reading to the real end of the text give the same tag. -/
theorem tagAt?_eq_read? (text : Text) (start : Nat) :
    tagAt? text start =
      (WrittenTag.read? (text.drop (start + 1))).map fun (tag, _) => tag.locate start := by
  obtain ⟨tail, htext, htail, _⟩ := throughLastClose_append text
  have hsound := (ScanMemory.sound_empty (throughLastClose text)).later (Nat.zero_le start)
  have hbehind : '>' ∉ tail.drop (start + 1 - (throughLastClose text).length) :=
    fun hmem => htail (List.mem_of_mem_drop hmem)
  have hdrop : text.drop (start + 1) = (throughLastClose text).drop (start + 1) ++
      tail.drop (start + 1 - (throughLastClose text).length) := by
    rw [← List.drop_append, ← htext]
  rw [tagAt?, hsound.quickReader_eq.1, plainReader, hdrop, WrittenTag.read?_append hbehind,
    Option.map_map, Option.map_map]
  rfl

/-- A found tag is a derivation of the text it covers, put in its place. -/
theorem tagAt?_eq_some_iff {text : Text} {start : Nat} (hopen : text[start]? = some '<') {tag : Tag} :
    tagAt? text start = some tag ↔
      ∃ written : WrittenTag, tag = written.locate start ∧ tag.stop ≤ text.length ∧
        written.Spells (text.slice start tag.stop) := by
  obtain ⟨hinside, hget⟩ := List.getElem?_eq_some_iff.mp hopen
  have htext : '<' :: text.drop (start + 1) = text.drop start := by
    rw [List.drop_eq_getElem_cons hinside, hget]
  rw [tagAt?_eq_read?, Option.map_eq_some_iff]
  constructor
  · rintro ⟨⟨written, after⟩, hread, rfl⟩
    obtain ⟨covered, hcovered, hspells⟩ := WrittenTag.read?_eq_some_iff.mp hread
    rw [htext] at hcovered
    have hstop : (written.locate start).stop = start + covered.length := by
      rw [WrittenTag.locate, hspells.eq_text]
    have hlength := congrArg List.length hcovered
    rw [List.length_drop, List.length_append] at hlength
    refine ⟨written, rfl, ?_, ?_⟩
    · rw [hstop]
      omega
    · rw [Text.slice_of_drop hcovered hstop]
      exact hspells
  · rintro ⟨written, rfl, hle, hspells⟩
    refine ⟨(written, text.drop (written.locate start).stop), ?_, rfl⟩
    refine WrittenTag.read?_eq_some_iff.mpr ⟨_, ?_, hspells⟩
    have hstop : start ≤ (written.locate start).stop := Nat.le_add_right start written.text.length
    rw [htext, Text.slice_append_drop text hstop]

/-- A tag that ends at `stop` is found at a `<` exactly when the text from there to `stop` is a start tag
    of the grammar, and then the found tag reports its only derivation. -/
theorem tagAt?_accepts_exactly_grammar (text : Text) (start : Nat) (hopen : text[start]? = some '<') :
    (∀ stop, (∃ tag, tagAt? text start = some tag ∧ tag.stop = stop) ↔
      stop ≤ text.length ∧ ∃ written : WrittenTag, written.Spells (text.slice start stop)) ∧
    ∀ tag, tagAt? text start = some tag →
      ∃ written : WrittenTag, written.Spells (text.slice start tag.stop) ∧
        (∀ other : WrittenTag, other.Spells (text.slice start tag.stop) → other = written) ∧
        tag.Reports written start := by
  refine ⟨fun stop => ⟨?_, ?_⟩, fun tag hfound => ?_⟩
  · rintro ⟨tag, hfound, rfl⟩
    obtain ⟨written, _, hle, hspells⟩ := (tagAt?_eq_some_iff hopen).mp hfound
    exact ⟨hle, written, hspells⟩
  · rintro ⟨hle, written, hspells⟩
    have hstop : (written.locate start).stop = stop := by
      have hlength := congrArg List.length hspells.eq_text
      have hpos := written.length_text_pos
      rw [Text.length_slice hle] at hlength
      simp only [WrittenTag.locate]
      omega
    refine ⟨written.locate start, (tagAt?_eq_some_iff hopen).mpr ?_, hstop⟩
    exact ⟨written, rfl, by rw [hstop]; exact hle, by rw [hstop]; exact hspells⟩
  · obtain ⟨written, rfl, _, hspells⟩ := (tagAt?_eq_some_iff hopen).mp hfound
    refine ⟨written, hspells, fun other hother => ?_, written.locate_reports start⟩
    exact (hother.unique hspells (rfl : _ ++ [] = _)).1

/-- Quotes that hold `>`, a slash inside a value and one after a name, and text behind the tag. -/
theorem tagAt?_accepts_exactly_grammar_quoted :
    ("x<Ab c = 'd>' e=f/ g/ ><i>" : Text)[1]? = some '<' ∧
      ∃ tag, tagAt? "x<Ab c = 'd>' e=f/ g/ ><i>" 1 = some tag ∧ tag.stop = 23 := by
  have hopen : ("x<Ab c = 'd>' e=f/ g/ ><i>" : Text)[1]? = some '<' := by decide
  refine ⟨hopen, ((tagAt?_accepts_exactly_grammar _ 1 hopen).1 23).mpr ⟨by decide, ?_⟩⟩
  exact ⟨⟨"Ab", [.blank ' ', .attribute "c" (some ⟨" ", " ", .quoted '\'' "d>"⟩), .blank ' ',
    .attribute "e" (some ⟨"", "", .bare "f/"⟩), .blank ' ', .attribute "g" none, .slash, .blank ' ']⟩,
    by decide⟩

end TemplateAudit
