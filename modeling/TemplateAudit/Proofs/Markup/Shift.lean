import Mathlib.Data.List.Basic
import TemplateAudit.Proofs.Markup.Walk

namespace TemplateAudit

/-- The value `count` characters further on. -/
def AttributeValue.shift (count : Nat) (value : AttributeValue) : AttributeValue :=
  { value with
    start := value.start + count
    stop := value.stop + count }

/-- The attribute `count` characters further on. -/
def Attribute.shift (count : Nat) (attr : Attribute) : Attribute :=
  { attr with
    nameStart := attr.nameStart + count
    nameEnd := attr.nameEnd + count
    logicalStart := attr.logicalStart + count
    logicalEnd := attr.logicalEnd + count
    value := attr.value.map (AttributeValue.shift count) }

/-- The tag `count` characters further on. -/
def Tag.shift (count : Nat) (tag : Tag) : Tag :=
  { tag with
    attributes := tag.attributes.map (Attribute.shift count)
    start := tag.start + count
    stop := tag.stop + count }

theorem AttributeValue.shift_shift (count count' : Nat) (value : AttributeValue) :
    (value.shift count).shift count' = value.shift (count + count') := by
  simp only [shift, Nat.add_assoc]

theorem Attribute.shift_shift (count count' : Nat) (attr : Attribute) :
    (attr.shift count).shift count' = attr.shift (count + count') := by
  simp only [shift, Nat.add_assoc, Option.map_map, Function.comp_def, AttributeValue.shift_shift]

theorem Tag.shift_shift (count count' : Nat) (tag : Tag) :
    (tag.shift count).shift count' = tag.shift (count + count') := by
  simp only [shift, Nat.add_assoc, List.map_map, Function.comp_def, Attribute.shift_shift]

theorem Assignment.locate_add (assignment : Assignment) (offset count : Nat) :
    assignment.locate (offset + count) = (assignment.locate offset).shift count := by
  obtain ⟨before, after, value⟩ := assignment
  cases value with
  | quoted mark body =>
    simp only [locate, AttributeValue.shift, AttributeValue.mk.injEq, true_and]
    omega
  | bare body =>
    simp only [locate, AttributeValue.shift, AttributeValue.mk.injEq, true_and]
    omega

/-- An attribute that starts further on is the same one moved. -/
theorem Attribute.locate_add (name : Text) (assignment : Option Assignment) (offset count : Nat) :
    Attribute.locate name assignment (offset + count) =
      (Attribute.locate name assignment offset).shift count := by
  have hvalue : assignment.map (·.locate (offset + count + name.length)) =
      (assignment.map (·.locate (offset + name.length))).map (AttributeValue.shift count) := by
    rw [Option.map_map, Nat.add_right_comm]
    congr 1
    funext assignment
    exact assignment.locate_add (offset + name.length) count
  simp only [Attribute.locate, Attribute.shift, hvalue, Attribute.mk.injEq, true_and, and_true]
  omega

/-- The attributes of items that start further on are the same ones moved. -/
theorem TagItem.locateAttributes_add (items : List TagItem) (offset count : Nat) :
    TagItem.locateAttributes (offset + count) items =
      (TagItem.locateAttributes offset items).map (Attribute.shift count) := by
  induction items generalizing offset with
  | nil => rfl
  | cons item items ih =>
    match item with
    | .blank c => simp only [locateAttributes, Nat.add_right_comm offset count, ih]
    | .slash => simp only [locateAttributes, Nat.add_right_comm offset count, ih]
    | .attribute name assignment =>
      simp only [locateAttributes, Nat.add_right_comm offset count, ih, Attribute.locate_add, List.map_cons]

theorem WrittenTag.locate_add (tag : WrittenTag) (offset count : Nat) :
    tag.locate (offset + count) = (tag.locate offset).shift count := by
  simp only [locate, Tag.shift, Nat.add_right_comm _ count, TagItem.locateAttributes_add]

/-- Where a text stands changes nothing but the offsets of its tags. -/
theorem tagsBy_plainReader_add (offset count : Nat) (text : Text) :
    tagsBy plainReader () (offset + count) text =
      (tagsBy plainReader () offset text).map (Tag.shift count) := by
  induction hlength : text.length using Nat.strong_induction_on generalizing text offset with
  | h length ih =>
    rw [tagsBy_eq_stop, tagsBy_eq_stop plainReader () offset]
    cases hstop : Stop.of text with
    | finish => rfl
    | advance step =>
      obtain ⟨hpos, hle⟩ := Stop.advance_bounds hstop
      simp only [Nat.add_right_comm offset count]
      exact ih _ (by rw [List.length_drop]; omega) _ _ rfl
    | tryTag =>
      obtain ⟨c, rest, rfl, _⟩ := Stop.tryTag_text hstop
      simp only [plainReader, List.tail_cons]
      subst hlength
      cases WrittenTag.read? (c :: rest) with
      | none =>
        simp only [Option.map_none, Nat.add_right_comm offset count]
        exact ih _ (by simp) _ _ rfl
      | some found =>
        obtain ⟨tag, after⟩ := found
        have hpos := tag.length_text_pos
        have hlater := ih _ (by rw [List.length_drop, List.length_cons]; omega) (offset + tag.text.length)
          (('<' :: c :: rest).drop tag.text.length) rfl
        simp only [Option.map_some, List.map_cons, WrittenTag.locate_add, Nat.add_right_comm offset count,
          hlater]

theorem plainTags_shift (offset : Nat) (text : Text) :
    tagsBy plainReader () offset text = (plainTags text).map (Tag.shift offset) := by
  rw [plainTags, ← tagsBy_plainReader_add, Nat.zero_add]

end TemplateAudit
