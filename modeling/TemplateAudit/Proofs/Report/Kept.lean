import TemplateAudit.Proofs.Report.Wording

namespace TemplateAudit

open StyleTag

/-- The console shows each part of the text by itself as it is, and each slot as its value. A backslash in
    front of a slot would be taken for a part of its tag. -/
structure Wording.IsKept (wording : Wording) : Prop where
  texts : ∀ part ∈ wording.parts, StyleTag.shown part.1 = .ok part.1 ∧ part.1.getLast? ≠ some '\\'
  slots : ∀ part ∈ wording.parts, StyleTag.shown (SlotStyle.tagged part.2) = .ok part.2.value
  last : StyleTag.shown wording.last = .ok wording.last

theorem SlotRole.weightOf_styleName (role : SlotRole) :
    Console.weightOf ('[' :: ('/' :: role.styleName ++ [']'])) < 10 := by
  cases role <;> decide

/-- A slot between its tags. -/
def Slot.marked (before : Text) (slot : Slot) : Marked :=
  ⟨.ofText before, slot.role.styleName, .ofValue slot.value⟩

theorem Slot.isSound_marked (before : Text) (slot : Slot) : (slot.marked before).IsSound where
  style := slot.role.isStyle_styleName
  light := slot.role.weightOf_styleName
  before := Piece.isSound_ofText before
  inner := Piece.isSound_ofValue slot.value

theorem Slot.markup_marked (before : Text) (slot : Slot) (rest : List Marked) (last : Text) :
    markup (slot.marked before :: rest) last = before ++ (SlotStyle.tagged slot ++ markup rest last) := by
  rw [markup, marked, tagged_ofText, tagged_ofValue]
  unfold SlotStyle.tagged
  simp

theorem Slot.content_marked (before : Text) (slot : Slot) (rest : List Marked) (last : Text) :
    content (slot.marked before :: rest) last = before ++ (slot.value ++ content rest last) := by
  rw [content, marked, Piece.content_ofText, Piece.content_ofValue]

theorem shown_nil : StyleTag.shown [] = .ok [] := by
  have hshown := shown_protect []
  rwa [protect_nil, shownText, cuts_nil, List.flatMap_nil] at hshown

theorem isKept_ofText_nil : (Piece.ofText []).IsKept :=
  (Piece.isKept_ofText_iff []).mpr ⟨shown_nil, by simp⟩

/-- A slot is kept behind a text exactly if the text is and the slot by itself. -/
theorem Slot.isKept_marked_iff {before : Text} {slot : Slot} :
    (slot.marked before).IsKept ↔ (StyleTag.shown before = .ok before ∧ before.getLast? ≠ some '\\') ∧
      StyleTag.shown (SlotStyle.tagged slot) = .ok slot.value := by
  have halone := shown_markup_iff (List.forall_mem_singleton.mpr (slot.isSound_marked [])) (within_self [])
  rw [markup_marked, content_marked, markup, content, List.append_nil, List.append_nil, List.nil_append,
    List.nil_append, List.forall_mem_singleton, and_iff_left shown_nil, Marked.IsKept,
    and_iff_right (show (slot.marked []).before.IsKept from isKept_ofText_nil)] at halone
  rw [halone, Marked.IsKept]
  exact and_congr_left' (Piece.isKept_ofText_iff before)

/-- A slot is shown as its value exactly if one backslash at most stands at the end of the value and no other
    character of it means anything to the console. -/
theorem Slot.shown_tagged_iff {slot : Slot} :
    StyleTag.shown (SlotStyle.tagged slot) = .ok slot.value ↔
      endSlashes slot.value ≤ 1 ∧ shownText (core slot.value) = core slot.value := by
  have hnothing : StyleTag.shown [] = .ok [] ∧ ([] : Text).getLast? ≠ some '\\' := ⟨shown_nil, by simp⟩
  have hmarked : (slot.marked []).IsKept ↔ _ := Slot.isKept_marked_iff
  rw [and_iff_right hnothing] at hmarked
  rw [← hmarked, ← Piece.isKept_ofValue_iff]
  exact and_iff_right isKept_ofText_nil

namespace Wording

/-- The parts of a text with its slots between tags. -/
def marked (wording : Wording) : List Marked := wording.parts.map fun part => part.2.marked part.1

variable (wording : Wording)

theorem isSound_of_mem_marked : ∀ marked ∈ wording.marked, marked.IsSound := by
  intro marked hmarked
  obtain ⟨part, _, rfl⟩ := List.mem_map.mp hmarked
  exact part.2.isSound_marked part.1

/-- The parts put together are the text with its tags. -/
theorem markup_marked : markup wording.marked wording.last = wording.text .tagged := by
  obtain ⟨parts, last⟩ := wording
  induction parts with
  | nil => rfl
  | cons part rest ih =>
    rw [marked, List.map_cons, Slot.markup_marked]
    exact congrArg (fun rest => part.1 ++ (SlotStyle.tagged part.2 ++ rest)) ih

/-- The parts mean the text without its tags. -/
theorem content_marked : content wording.marked wording.last = wording.text .plain := by
  obtain ⟨parts, last⟩ := wording
  induction parts with
  | nil => rfl
  | cons part rest ih =>
    rw [marked, List.map_cons, Slot.content_marked]
    exact congrArg (fun rest => part.1 ++ (part.2.value ++ rest)) ih

/-- A text is kept exactly if all its parts are and the last one is shown as it is. -/
theorem isKept_iff : wording.IsKept ↔
    (∀ marked ∈ wording.marked, marked.IsKept) ∧ StyleTag.shown wording.last = .ok wording.last := by
  simp only [marked, List.forall_mem_map, Slot.isKept_marked_iff]
  constructor
  · rintro ⟨htexts, hslots, hlast⟩
    exact ⟨fun part hpart => ⟨htexts part hpart, hslots part hpart⟩, hlast⟩
  · rintro ⟨hparts, hlast⟩
    exact ⟨fun part hpart => (hparts part hpart).1, fun part hpart => (hparts part hpart).2, hlast⟩

/-- A text is kept if the console gives no meaning to any character of it, closing brackets in slots
    apart. -/
theorem isKept_of_isInert {wording : Wording} (h : wording.isInert = true) : wording.IsKept where
  texts := by
    intro part hpart
    obtain ⟨htext, hclose, _⟩ := inert_parts h part hpart
    exact ⟨shown_of_isInert htext hclose, getLast?_of_isInert htext⟩
  slots := by
    intro part hpart
    obtain ⟨_, _, hvalue⟩ := inert_parts h part hpart
    have hlast := getLast?_of_isInert hvalue
    have hslashes := endSlashes_eq_zero_iff.mpr hlast
    refine Slot.shown_tagged_iff.mpr ⟨by omega, ?_⟩
    rw [core_eq_self hlast, shownText_of_isInert hvalue]
  last := shown_of_isInert (inert_last h).1 (inert_last h).2

/-- A space in front of a text does not decide whether it is kept. -/
theorem isKept_after_blank_iff : (wording.after ' ').IsKept ↔ wording.IsKept := by
  rw [isKept_iff, isKept_iff]
  match wording with
  | ⟨[], last⟩ => exact and_congr_right' shown_blank_iff
  | ⟨(before, slot) :: rest, last⟩ =>
    refine and_congr_left' ?_
    simp only [after, marked, List.map_cons, List.forall_mem_cons, Slot.isKept_marked_iff, shown_blank_iff]
    cases before <;> simp

end Wording

end TemplateAudit
