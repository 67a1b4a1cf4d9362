import TemplateAudit.Proofs.Markup.LastClose
import TemplateAudit.Proofs.Markup.Memory

namespace TemplateAudit

/-- A written name is its logical name, which is never empty, between two decorations. -/
theorem Binding.classify_split {raw : Text} (h : raw ≠ []) :
    ∃ opening closing, raw = opening ++ ((classify raw).logicalName ++ closing) ∧
      opening.length = (classify raw).offset ∧ (classify raw).logicalName ≠ [] := by
  unfold classify
  split
  · next wrapper hfind =>
    have hwraps := List.find?_some hfind
    simp only [Wrapper.surrounds, Bool.and_eq_true, decide_eq_true_eq] at hwraps
    obtain ⟨_, hroom⟩ := hwraps
    have hname := Text.length_slice (Nat.sub_le raw.length wrapper.closing.length)
      wrapper.opening.length
    refine ⟨raw.take wrapper.opening.length, raw.drop (raw.length - wrapper.closing.length), ?_, ?_, ?_⟩
    · rw [Text.slice_append_drop raw (by omega), List.take_append_drop]
    · exact List.length_take_of_le (by omega)
    · refine List.ne_nil_of_length_pos ?_
      rw [hname]
      omega
  · split
    · next keyword kind hfind =>
      have hleads := List.find?_some hfind
      simp only [keywordLeads, Bool.and_eq_true, decide_eq_true_eq] at hleads
      obtain ⟨_, hroom⟩ := hleads
      refine ⟨raw.take keyword.length, [], ?_, ?_, ?_⟩
      · rw [List.append_nil, List.take_append_drop]
      · exact List.length_take_of_le (by omega)
      · refine List.ne_nil_of_length_pos ?_
        rw [List.length_drop]
        omega
    · exact ⟨[], [], (List.append_nil raw).symm, rfl, h⟩

/-- Where an attribute ends: after its value if it has one, and after its name otherwise. A closing
    quote is left out. -/
def Attribute.stop (attr : Attribute) : Nat := attr.value.elim attr.nameEnd AttributeValue.stop

/-- The spans of an attribute are in order and cut its parts out of the text. -/
structure Attribute.LaidOut (text : Text) (attr : Attribute) : Prop where
  nameStart_le : attr.nameStart ≤ attr.logicalStart
  logicalStart_lt : attr.logicalStart < attr.logicalEnd
  logicalEnd_le : attr.logicalEnd ≤ attr.nameEnd
  nameEnd_le : ∀ value ∈ attr.value, attr.nameEnd ≤ value.start ∧ value.start ≤ value.stop
  rawName : text.slice attr.nameStart attr.nameEnd = attr.rawName
  logicalName : text.slice attr.logicalStart attr.logicalEnd = attr.logicalName
  value : ∀ value ∈ attr.value, text.slice value.start value.stop = value.text

/-- A tag stands between its `<` and its `>`, and its attributes stand inside one after another. -/
structure Tag.LaidOut (text : Text) (tag : Tag) : Prop where
  start_lt : tag.start < tag.stop - 1
  opening : text[tag.start]? = some '<'
  closing : text[tag.stop - 1]? = some '>'
  inside : ∀ attr ∈ tag.attributes, tag.start < attr.nameStart ∧ attr.stop ≤ tag.stop - 1
  ordered : tag.attributes.Pairwise fun previous next => previous.stop ≤ next.nameStart
  attributes : ∀ attr ∈ tag.attributes, attr.LaidOut text

/-- The tags stand at or after `offset` one after another. -/
structure TagsLaidOut (text : Text) (offset : Nat) (tags : List Tag) : Prop where
  later : ∀ tag ∈ tags, offset ≤ tag.start
  ordered : tags.Pairwise fun previous next => previous.stop ≤ next.start
  tags : ∀ tag ∈ tags, tag.LaidOut text

theorem Attribute.LaidOut.nameEnd_le_stop {text : Text} {attr : Attribute} (h : attr.LaidOut text) :
    attr.nameEnd ≤ attr.stop := by
  unfold Attribute.stop
  cases hvalue : attr.value with
  | none => exact Nat.le_refl _
  | some value =>
    obtain ⟨hstart, hstop⟩ := h.nameEnd_le value hvalue
    exact Nat.le_trans hstart hstop

theorem Attribute.LaidOut.logicalStart_lt_stop {text : Text} {attr : Attribute}
    (h : attr.LaidOut text) : attr.logicalStart < attr.stop := by
  have hlogical := h.logicalStart_lt
  have hname := h.logicalEnd_le
  have hstop := h.nameEnd_le_stop
  omega

/-- A bound name ends before the end of the text. -/
theorem Tag.LaidOut.logicalEnd_lt {text : Text} {tag : Tag} (h : tag.LaidOut text) {attr : Attribute}
    (hattr : attr ∈ tag.attributes) : attr.logicalEnd < text.length := by
  obtain ⟨hclose, _⟩ := List.getElem?_eq_some_iff.mp h.closing
  have hstop := (h.inside attr hattr).2
  have hname := (h.attributes attr hattr).logicalEnd_le
  have hvalue := (h.attributes attr hattr).nameEnd_le_stop
  omega

theorem Tag.LaidOut.logicalEnd_eq {text : Text} {tag : Tag} (h : tag.LaidOut text) {attr : Attribute}
    (hattr : attr ∈ tag.attributes) : attr.logicalEnd = attr.logicalStart + attr.logicalName.length := by
  have hlaidOut := h.attributes attr hattr
  have hspan := hlaidOut.logicalStart_lt
  rw [← hlaidOut.logicalName, Text.length_slice (Nat.le_of_lt (h.logicalEnd_lt hattr))]
  omega

/-- The value of an assignment lies where the assignment is and reads there as it is reported. -/
theorem Assignment.locate_spec {text rest : Text} {assignment : Assignment} {offset : Nat}
    (htext : text.drop offset = assignment.text ++ rest) :
    offset ≤ (assignment.locate offset).start ∧
      (assignment.locate offset).start ≤ (assignment.locate offset).stop ∧
      (assignment.locate offset).stop ≤ offset + assignment.text.length ∧
      text.slice (assignment.locate offset).start (assignment.locate offset).stop =
        (assignment.locate offset).text := by
  have hvalue := Assignment.drop_value htext
  obtain ⟨before, after, value⟩ := assignment
  cases value with
  | quoted mark body =>
    rw [WrittenValue.text, List.cons_append, List.append_assoc] at hvalue
    refine ⟨?_, ?_, ?_, ?_⟩
    · simp only [Assignment.locate]
      omega
    · simp only [Assignment.locate]
      omega
    · simp only [Assignment.locate, Assignment.text, WrittenValue.text, List.length_append, List.length_cons]
      omega
    · exact Text.slice_of_drop (Text.drop_eq_cons hvalue).2 rfl
  | bare body =>
    refine ⟨?_, ?_, ?_, ?_⟩
    · simp only [Assignment.locate]
      omega
    · simp only [Assignment.locate]
      omega
    · simp only [Assignment.locate, Assignment.text, WrittenValue.text, List.length_append, List.length_cons]
      omega
    · exact Text.slice_of_drop hvalue rfl

/-- An attribute located where it is written is laid out and ends inside its text. -/
theorem Attribute.laidOut_locate {text name rest : Text} {assignment : Option Assignment}
    {offset : Nat} (hname : name ≠ [])
    (htext : text.drop offset = (TagItem.attribute name assignment).text ++ rest) :
    (Attribute.locate name assignment offset).LaidOut text ∧
      (Attribute.locate name assignment offset).stop ≤
        offset + (TagItem.attribute name assignment).text.length := by
  rw [TagItem.text_attribute, List.append_assoc] at htext
  obtain ⟨opening, closing, hsplit, hoffset, hlogical⟩ := Binding.classify_split hname
  have hlength : name.length =
      (Binding.classify name).offset + ((Binding.classify name).logicalName.length + closing.length) := by
    rw [← hoffset, ← List.length_append, ← List.length_append, ← hsplit]
  have hinner : text.drop (offset + (Binding.classify name).offset) =
      (Binding.classify name).logicalName ++ (closing ++ (Assignment.spelling assignment ++ rest)) := by
    rw [hsplit, List.append_assoc, List.append_assoc] at htext
    rw [← hoffset]
    exact Text.drop_append htext
  have hpos := List.length_pos_iff.mpr hlogical
  have hvalue : ∀ value ∈ (Attribute.locate name assignment offset).value,
      offset + name.length ≤ value.start ∧ value.start ≤ value.stop ∧
        value.stop ≤ offset + name.length + (Assignment.spelling assignment).length ∧
        text.slice value.start value.stop = value.text := by
    intro value hmem
    cases assignment with
    | none => simp [Attribute.locate] at hmem
    | some assignment =>
      obtain rfl : assignment.locate (offset + name.length) = value := by
        simpa [Attribute.locate] using hmem
      exact Assignment.locate_spec (Text.drop_append htext)
  constructor
  · constructor
    case nameStart_le =>
      simp only [Attribute.locate]
      omega
    case logicalStart_lt =>
      simp only [Attribute.locate]
      omega
    case logicalEnd_le =>
      simp only [Attribute.locate]
      omega
    case nameEnd_le => exact fun value hmem => ⟨(hvalue value hmem).1, (hvalue value hmem).2.1⟩
    case rawName => exact Text.slice_of_drop htext rfl
    case logicalName => exact Text.slice_of_drop hinner rfl
    case value => exact fun value hmem => (hvalue value hmem).2.2.2
  · rw [TagItem.text_attribute, List.length_append, ← Nat.add_assoc, Attribute.stop]
    cases hlocated : (Attribute.locate name assignment offset).value with
    | none => exact Nat.le_add_right _ _
    | some value => exact (hvalue value hlocated).2.2.1

theorem TagItem.Fits.name_ne_nil {name rest : Text} {assignment : Option Assignment}
    (h : (TagItem.attribute name assignment).Fits rest) : name ≠ [] := by
  rintro rfl
  exact h

/-- The attributes among written items stand in order from the first item up to the `>`. -/
theorem TagItem.Spell.locateAttributes {items : List TagItem} {body : Text} (h : Spell items body)
    {text after : Text} {offset : Nat} (htext : text.drop offset = body ++ after) :
    (∀ attr ∈ TagItem.locateAttributes offset items,
        offset ≤ attr.nameStart ∧ attr.stop < offset + body.length ∧ attr.LaidOut text) ∧
      (TagItem.locateAttributes offset items).Pairwise fun previous next =>
        previous.stop ≤ next.nameStart := by
  induction h generalizing offset with
  | close => exact ⟨fun attr hattr => absurd hattr List.not_mem_nil, .nil⟩
  | @item item items rest hitem hitems ih =>
    rw [List.append_assoc] at htext
    obtain ⟨hlater, hordered⟩ := ih (Text.drop_append htext)
    have hrest : 0 < rest.length := List.length_pos_of_mem hitems.close_mem
    have htail : ∀ attr ∈ TagItem.locateAttributes (offset + item.text.length) items,
        offset ≤ attr.nameStart ∧ attr.stop < offset + (item.text ++ rest).length ∧
          attr.LaidOut text := by
      intro attr hattr
      obtain ⟨hstart, hstop, hlaidOut⟩ := hlater attr hattr
      rw [List.length_append]
      exact ⟨by omega, by omega, hlaidOut⟩
    match item with
    | .blank c => exact ⟨htail, hordered⟩
    | .slash => exact ⟨htail, hordered⟩
    | .attribute name assignment =>
      obtain ⟨hlaidOut, hstop⟩ := Attribute.laidOut_locate hitem.name_ne_nil htext
      constructor
      · intro attr hattr
        obtain rfl | hattr := List.mem_cons.mp hattr
        · rw [List.length_append]
          exact ⟨Nat.le_refl _, by omega, hlaidOut⟩
        · exact htail attr hattr
      · refine List.pairwise_cons.mpr ⟨fun attr hattr => ?_, hordered⟩
        exact Nat.le_trans hstop (hlater attr hattr).1

/-- A tag located where it is written is laid out. -/
theorem WrittenTag.Spells.laidOut_locate {tag : WrittenTag} {written : Text} (h : tag.Spells written)
    {text after : Text} {start : Nat} (htext : text.drop start = written ++ after) :
    (tag.locate start).LaidOut text := by
  have hlength : (tag.locate start).stop = start + written.length := by
    rw [h.eq_text]
    rfl
  obtain ⟨body, rfl, _, hbody⟩ := h
  rw [List.cons_append, List.append_assoc] at htext
  obtain ⟨hopen, hname⟩ := Text.drop_eq_cons htext
  have hitems := Text.drop_append hname
  obtain ⟨hattributes, hordered⟩ := hbody.locateAttributes hitems
  obtain ⟨inner, rfl⟩ : ∃ inner, body = inner ++ ['>'] := ⟨_, hbody.eq_text⟩
  rw [List.append_assoc] at hitems
  have hclose := (Text.drop_eq_cons (Text.drop_append hitems)).1
  simp only [List.length_cons, List.length_append, List.length_nil] at hlength hattributes
  constructor
  case start_lt =>
    rw [hlength]
    show start < _
    omega
  case opening => exact hopen
  case closing =>
    rw [← hclose, hlength]
    congr 1
    omega
  case inside =>
    intro attr hattr
    obtain ⟨hstart, hstop, _⟩ := hattributes attr hattr
    rw [hlength]
    show start < _ ∧ _
    omega
  case ordered => exact hordered
  case attributes => exact fun attr hattr => (hattributes attr hattr).2.2

theorem TagsLaidOut.nil (text : Text) (offset : Nat) : TagsLaidOut text offset [] where
  later := by simp
  ordered := .nil
  tags := by simp

theorem TagsLaidOut.earlier {text : Text} {offset offset' : Nat} {tags : List Tag}
    (h : TagsLaidOut text offset' tags) (hle : offset ≤ offset') : TagsLaidOut text offset tags where
  later := fun tag htag => Nat.le_trans hle (h.later tag htag)
  ordered := h.ordered
  tags := h.tags

/-- A tag and the tags that are laid out behind its end are laid out together. -/
theorem TagsLaidOut.cons {text : Text} {tag : Tag} {tags : List Tag} (htag : tag.LaidOut text)
    (htags : TagsLaidOut text tag.stop tags) : TagsLaidOut text tag.start (tag :: tags) where
  later := by
    intro other hother
    obtain rfl | hother := List.mem_cons.mp hother
    · exact Nat.le_refl _
    · have hlater := htags.later other hother
      have hspan := htag.start_lt
      omega
  ordered := List.pairwise_cons.mpr ⟨htags.later, htags.ordered⟩
  tags := List.forall_mem_cons.mpr ⟨htag, htags.tags⟩

theorem TagsLaidOut.filter {text : Text} {offset : Nat} {tags : List Tag}
    (h : TagsLaidOut text offset tags) (keep : Tag → Bool) :
    TagsLaidOut text offset (tags.filter keep) where
  later := fun tag htag => h.later tag (List.mem_filter.mp htag).1
  ordered := h.ordered.filter keep
  tags := fun tag htag => h.tags tag (List.mem_filter.mp htag).1

/-- The walk from any offset finds tags that stand in order from there. -/
theorem tagsBy_plainReader_laidOut (text : Text) (offset : Nat) :
    TagsLaidOut text offset (tagsBy plainReader () offset (text.drop offset)) := by
  induction hlength : text.length - offset using Nat.strong_induction_on generalizing offset with
  | h length ih =>
    rw [tagsBy_eq_stop]
    cases hstop : Stop.of (text.drop offset) with
    | finish => exact .nil text offset
    | advance count =>
      obtain ⟨hpos, hle⟩ := Stop.advance_bounds hstop
      rw [List.length_drop] at hle
      simp only [List.drop_drop]
      exact (ih _ (by omega) _ rfl).earlier (by omega)
    | tryTag =>
      obtain ⟨c, rest, htext, _⟩ := Stop.tryTag_text hstop
      have hinside := congrArg List.length htext
      rw [List.length_drop, List.length_cons] at hinside
      simp only [plainReader, htext, List.tail_cons]
      cases hread : WrittenTag.read? (c :: rest) with
      | none =>
        rw [← (Text.drop_eq_cons htext).2]
        exact (ih _ (by omega) _ rfl).earlier (by omega)
      | some outcome =>
        obtain ⟨tag, after⟩ := outcome
        obtain ⟨written, hwritten, hspells⟩ := WrittenTag.read?_eq_some_iff.mp hread
        have hpos := tag.length_text_pos
        have hlater := ih (text.length - (offset + tag.text.length)) (by omega) _ rfl
        simp only [Option.map_some, ← htext, List.drop_drop]
        exact .cons (hspells.laidOut_locate (htext.trans hwritten)) hlater

/-- The found tags are laid out, whatever names are asked for. -/
theorem tagsLaidOut_scanTags (text : Text) (names : Option (List Text)) :
    TagsLaidOut text 0 (scanTags text names) := by
  have hall : TagsLaidOut text 0 (quickTags text) := by
    rw [quickTags_eq_plainTags]
    exact tagsBy_plainReader_laidOut text 0
  cases names with
  | none => exact hall
  | some names => exact hall.filter _

/-- A tag that starts after another one starts after its end. -/
theorem TagsLaidOut.start_le_or {text : Text} {offset : Nat} {tags : List Tag}
    (h : TagsLaidOut text offset tags) {tag other : Tag} (htag : tag ∈ tags) (hother : other ∈ tags) :
    other.start ≤ tag.start ∨ tag.stop ≤ other.start := by
  have hforward : tags.Pairwise fun tag other => other.start ≤ tag.start ∨ tag.stop ≤ other.start :=
    h.ordered.imp .inr
  have hbackward : tags.Pairwise fun other tag => other.start ≤ tag.start ∨ tag.stop ≤ other.start := by
    refine h.ordered.imp_of_mem ?_
    intro previous next hprevious _ hstop
    have hspan := (h.tags previous hprevious).start_lt
    exact .inl (by omega)
  have hself : ∀ tag ∈ tags, tag.start ≤ tag.start ∨ tag.stop ≤ tag.start :=
    fun tag _ => .inl (Nat.le_refl _)
  exact List.Pairwise.forall_of_forall_of_flip hself hforward hbackward htag hother

/-- The logical names of the tags, one tag after another, stand in the order of the text. -/
theorem TagsLaidOut.logicalStarts {text : Text} {offset : Nat} {tags : List Tag}
    (h : TagsLaidOut text offset tags) :
    ((tags.flatMap Tag.attributes).map Attribute.logicalStart).Pairwise (· < ·) := by
  rw [List.pairwise_map, List.pairwise_flatMap]
  constructor
  · intro tag htag
    refine (h.tags tag htag).ordered.imp_of_mem ?_
    intro previous next hprevious hnext hordered
    have hstart := ((h.tags tag htag).attributes previous hprevious).logicalStart_lt_stop
    have hname := ((h.tags tag htag).attributes next hnext).nameStart_le
    omega
  · refine h.ordered.imp_of_mem ?_
    intro previous next hprevious hnext hordered first hfirst second hsecond
    have hstart := ((h.tags previous hprevious).attributes first hfirst).logicalStart_lt_stop
    have hstop := ((h.tags previous hprevious).inside first hfirst).2
    have hopen := ((h.tags next hnext).inside second hsecond).1
    have hname := ((h.tags next hnext).attributes second hsecond).nameStart_le
    omega

/-- Every scan gives tags that are laid out one after another: none starts inside another one or
    inside one of its values, the parts of each are where it says they are, and the logical names of
    the whole result stand in the order of the text. -/
theorem scanTags_laidOut (text : Text) (names : Option (List Text)) :
    (scanTags text names).Pairwise (fun previous next => previous.stop ≤ next.start) ∧
      (∀ tag ∈ scanTags text names, ∀ other ∈ scanTags text names,
        ¬(tag.start < other.start ∧ other.start < tag.stop) ∧
          ∀ attr ∈ tag.attributes, ∀ value ∈ attr.value,
            ¬(value.start ≤ other.start ∧ other.start < value.stop)) ∧
      (∀ tag ∈ scanTags text names, tag.LaidOut text) ∧
      (((scanTags text names).flatMap Tag.attributes).map Attribute.logicalStart).Pairwise (· < ·) := by
  have hlaidOut := tagsLaidOut_scanTags text names
  refine ⟨hlaidOut.ordered, fun tag htag other hother => ?_, hlaidOut.tags, hlaidOut.logicalStarts⟩
  have hseparate := hlaidOut.start_le_or htag hother
  refine ⟨by omega, fun attr hattr value hvalue => ?_⟩
  have hattribute := (hlaidOut.tags tag htag).attributes attr hattr
  obtain ⟨hopen, hclose⟩ := (hlaidOut.tags tag htag).inside attr hattr
  have hlogical := hattribute.logicalStart_lt
  have hname := hattribute.logicalEnd_le
  have hstart := hattribute.nameStart_le
  have hvalueStart := (hattribute.nameEnd_le value hvalue).1
  have hstop : attr.stop = value.stop := by rw [Attribute.stop, hvalue]; rfl
  omega

end TemplateAudit
