import Mathlib.Data.List.TakeWhile
import TemplateAudit.Proofs.Message.Wording
import TemplateAudit.Proofs.Steps

namespace TemplateAudit

/-- A field that names a slot and neither picks a part of its value nor asks for a form of it. -/
structure TemplateField.IsPlain (field : TemplateField) : Prop where
  conversion : field.conversion = none
  layout : field.layout = []
  no_point : '.' ∉ field.name
  no_bracket : '[' ∉ field.name

/-- A message whose fields are all plain. -/
def Message.IsPlain (message : Message) : Prop :=
  ∀ field, .field field ∈ Template.pieces message.template → field.IsPlain

/-- The slot that a field with the given name stands for. -/
def Slot.find? (slots : List Slot) (name : Text) : Option Slot := slots.reverse.find? (·.name == name)

/-- The text with a slot before it. -/
def Wording.behind (slot : Slot) (wording : Wording) : Wording :=
  ⟨([], slot) :: wording.parts, wording.last⟩

/-- The wording of the pieces of a template; fields without slot are left out, and so are faults. -/
def Wording.ofPieces (slots : List Slot) : List TemplatePiece → Wording
  | [] => ⟨[], []⟩
  | .literal c :: rest => (ofPieces slots rest).after c
  | .field field :: rest =>
    match Slot.find? slots field.name with
    | some slot => (ofPieces slots rest).behind slot
    | none => ofPieces slots rest
  | .fault _ :: rest => ofPieces slots rest

/-- The wording of a message. -/
def Message.wording (message : Message) : Wording :=
  Wording.ofPieces message.slots (Template.pieces message.template)

namespace Template

/-- A plain field shows what its name stands for. -/
theorem renderField_eq_map_lookUp {field : TemplateField} (h : field.IsPlain)
    (expand : Text → Except TemplateError Text) (values : Text → Option Text) :
    renderField expand values field = (lookUp values field.name).map Part.shown := by
  have hrest : ∀ part : Part, convert field.conversion part = .ok part ∧ field.layout.contains '\x7b' = false ∧
      part.layOut field.layout = .ok part.shown := by
    intro part
    rw [h.conversion, h.layout]
    exact ⟨rfl, rfl, rfl⟩
  rw [renderField]
  cases lookUp values field.name with
  | error error => rfl
  | ok part =>
    obtain ⟨hconvert, hlayout, hshown⟩ := hrest part
    simp only [bind, Except.bind, hconvert, hlayout, Bool.false_eq_true, if_false, hshown]
    rfl

/-- The name of a plain field is a name as a whole. -/
theorem takeWhile_name_of_isPlain {field : TemplateField} (h : field.IsPlain) :
    field.name.takeWhile (fun c => c != '.' && c != '[') = field.name := by
  refine List.takeWhile_eq_self_iff.mpr fun c hc => ?_
  have hpoint : c ≠ '.' := fun heq => h.no_point (heq ▸ hc)
  have hindex : c ≠ '[' := fun heq => h.no_bracket (heq ▸ hc)
  simp [hpoint, hindex]

/-- A plain field can be rendered exactly if its name is no number and a slot has it. -/
theorem renderField_of_isPlain {field : TemplateField} (h : field.IsPlain)
    (expand : Text → Except TemplateError Text) (values : Text → Option Text) {shown : Text} :
    renderField expand values field = .ok shown ↔
      Layout.number? field.name = .ok none ∧ field.name ≠ [] ∧ values field.name = some shown := by
  have hlookUp : ∀ part, lookUp values field.name = .ok part ↔
      Layout.number? field.name = .ok none ∧ field.name ≠ [] ∧
        ∃ value, values field.name = some value ∧ part = .text value := by
    intro part
    rw [lookUp, takeWhile_name_of_isPlain h, List.drop_length]
    split
    · next hnumber => simp [hnumber]
    · next hnumber => simp [hnumber]
    · next hnumber =>
      split
      · next hempty => simp [List.isEmpty_iff.mp hempty]
      · next hempty =>
        have hne : field.name ≠ [] := fun hnil => hempty (List.isEmpty_iff.mpr hnil)
        split
        · next hnone => simp [hnone]
        · next value hvalue => simp [hnumber, hne, hvalue, followParts, eq_comm]
  rw [renderField_eq_map_lookUp h]
  constructor
  · intro hrendered
    obtain ⟨part, hpart, rfl⟩ := ok_of_map hrendered
    obtain ⟨hnumber, hne, value, hvalue, rfl⟩ := (hlookUp part).mp hpart
    exact ⟨hnumber, hne, hvalue⟩
  · rintro ⟨hnumber, hne, hvalue⟩
    rw [(hlookUp (.text shown)).mpr ⟨hnumber, hne, shown, hvalue, rfl⟩]
    rfl

/-- Pieces that can be rendered with plain fields can be rendered in every style, and are the wording. -/
theorem renderPieces_of_isPlain {slots : List Slot} {pieces : List TemplatePiece}
    (hplain : ∀ field, .field field ∈ pieces → field.IsPlain) {style : SlotStyle} {rendered : Text}
    {expand : Text → Except TemplateError Text}
    (h : renderPieces expand (Slot.lookUp? style slots) pieces = .ok rendered) (style' : SlotStyle)
    (expand' : Text → Except TemplateError Text) :
    renderPieces expand' (Slot.lookUp? style' slots) pieces =
      .ok ((Wording.ofPieces slots pieces).text style') := by
  induction pieces generalizing rendered with
  | nil => rfl
  | cons piece rest ih =>
    have hplainRest : ∀ field, .field field ∈ rest → field.IsPlain :=
      fun field hfield => hplain field (List.mem_cons_of_mem piece hfield)
    cases piece with
    | literal c =>
      obtain ⟨later, hlater, _⟩ := ok_of_map h
      rw [renderPieces, ih hplainRest hlater, Wording.ofPieces, Wording.text_after]
      rfl
    | fault error => cases h
    | field field =>
      have hfield := hplain field List.mem_cons_self
      rw [renderPieces] at h
      split at h
      · cases h
      · next shown hshown =>
        obtain ⟨later, hlater, _⟩ := ok_of_map h
        obtain ⟨hnumber, hne, hvalue⟩ := (renderField_of_isPlain hfield _ _).mp hshown
        obtain ⟨slot, hslot, rfl⟩ := Option.map_eq_some_iff.mp hvalue
        have hshown' : renderField expand' (Slot.lookUp? style' slots) field = .ok (style' slot) :=
          (renderField_of_isPlain hfield _ _).mpr ⟨hnumber, hne, Option.map_eq_some_iff.mpr ⟨slot, hslot, rfl⟩⟩
        have hfind : Slot.find? slots field.name = some slot := hslot
        rw [renderPieces, hshown', ih hplainRest hlater, Wording.ofPieces, hfind]
        rfl

/-- What is left behind a name is the end of the text. -/
theorem suffix_of_readName {indexed : Bool} {text name after : Text} {mark : Char}
    (h : readName indexed text = .ok (name, mark, after)) : after <:+ text := by
  induction text generalizing indexed name mark after with
  | nil => cases h
  | cons c rest ih =>
    have hlater : ∀ indexed' (f : Text × Char × Text → Text × Char × Text),
        (readName indexed' rest).map f = .ok (name, mark, after) → (∀ found, (f found).2.2 = found.2.2) →
          after <:+ c :: rest := by
      intro indexed' f h hf
      obtain ⟨found, hrest, hsame⟩ := ok_of_map h
      have hafter : found.2.2 = after := by rw [← hf, hsame]
      exact hafter ▸ (ih hrest).trans (List.suffix_cons c rest)
    rw [readName] at h
    split at h
    · exact hlater _ _ h fun _ => rfl
    · split at h
      · cases h
      · split at h
        · obtain ⟨_, _, rfl⟩ := Except.ok.inj h
          exact List.suffix_cons c rest
        · exact hlater _ _ h fun _ => rfl

/-- What is left behind a layout is the end of the text. -/
theorem suffix_of_readLayout {depth : Nat} {text layout after : Text}
    (h : readLayout depth text = .ok (layout, after)) : after <:+ text := by
  induction text generalizing depth layout after with
  | nil => cases h
  | cons c rest ih =>
    have hlater : ∀ depth' (f : Text × Text → Text × Text),
        (readLayout depth' rest).map f = .ok (layout, after) → (∀ found, (f found).2 = found.2) →
          after <:+ c :: rest := by
      intro depth' f h hf
      obtain ⟨found, hrest, hsame⟩ := ok_of_map h
      have hafter : found.2 = after := by rw [← hf, hsame]
      exact hafter ▸ (ih hrest).trans (List.suffix_cons c rest)
    simp only [readLayout] at h
    split at h
    · cases depth with
      | zero =>
        obtain ⟨_, rfl⟩ := Except.ok.inj h
        exact List.suffix_cons c rest
      | succ depth => exact hlater _ _ h fun _ => rfl
    · exact hlater _ _ h fun _ => rfl

theorem suffix_of_readLayout_map {name text after : Text} {conversion : Option Char} {field : TemplateField}
    (h : (readLayout 0 text).map (fun (layout, after) => (TemplateField.mk name conversion layout, after)) =
      .ok (field, after)) : after <:+ text := by
  obtain ⟨⟨layout, after⟩, hread, hsame⟩ := ok_of_map h
  obtain ⟨_, rfl⟩ := hsame
  exact suffix_of_readLayout hread

/-- What is left behind a conversion is the end of the text. -/
theorem suffix_of_readConversion {name text after : Text} {field : TemplateField}
    (h : readConversion name text = .ok (field, after)) : after <:+ text := by
  match text, h with
  | conversion :: mark :: rest, h =>
    have hrest : rest <:+ conversion :: mark :: rest := List.suffix_append [conversion, mark] rest
    rw [readConversion] at h
    split at h
    · obtain ⟨_, rfl⟩ := Except.ok.inj h
      exact hrest
    · split at h
      · exact (suffix_of_readLayout_map h).trans hrest
      · cases h

/-- What is left behind a field is the end of the text. -/
theorem suffix_of_readField {text after : Text} {field : TemplateField}
    (h : readField text = .ok (field, after)) : after <:+ text := by
  rw [readField] at h
  split at h
  · cases h
  · next name mark rest hname =>
    refine List.IsSuffix.trans ?_ (suffix_of_readName hname)
    split at h
    · exact suffix_of_readConversion h
    · split at h
      · exact suffix_of_readLayout_map h
      · obtain ⟨_, rfl⟩ := Except.ok.inj h
        exact List.suffix_refl _

/-- The literal characters of a template stand in it. -/
theorem mem_of_literal_mem_pieces {text : Text} {c : Char} (h : .literal c ∈ pieces text) : c ∈ text := by
  have hcons : ∀ {d : Char} {rest : List TemplatePiece}, .literal c ∈ .literal d :: rest →
      c = d ∨ .literal c ∈ rest :=
    fun hmem => (List.mem_cons.mp hmem).imp_left TemplatePiece.literal.inj
  have hfault : ∀ {error : TemplateError}, TemplatePiece.literal c ∉ [.fault error] :=
    fun hmem => by cases List.mem_singleton.mp hmem
  fun_induction pieces text with
  | case1 => cases h
  | case2 => exact absurd h hfault
  | case3 more ih =>
    obtain rfl | hmore := hcons h
    · exact List.mem_cons_self
    · exact List.mem_cons_of_mem _ (List.mem_cons_of_mem _ (ih hmore))
  | case4 => exact absurd h hfault
  | case5 d more hopening field after hfield ih =>
    obtain hsame | hafter := List.mem_cons.mp h
    · cases hsame
    · exact List.mem_cons_of_mem _ ((suffix_of_readField hfield).mem (ih hafter))
  | case6 => exact absurd h hfault
  | case7 more hopening ih =>
    obtain rfl | hmore := hcons h
    · exact List.mem_cons_self
    · exact List.mem_cons_of_mem _ (List.mem_cons_of_mem _ (ih hmore))
  | case8 => exact absurd h hfault
  | case9 d rest hopening hclosing ih =>
    obtain rfl | hrest := hcons h
    · exact List.mem_cons_self
    · exact List.mem_cons_of_mem _ (ih hrest)

end Template

namespace Wording

/-- All characters of the text and of its slots are such. -/
def All (holds : Char → Prop) (wording : Wording) : Prop :=
  (∀ part ∈ wording.parts, (∀ c ∈ part.1, holds c) ∧ ∀ c ∈ part.2.value, holds c) ∧
    ∀ c ∈ wording.last, holds c

theorem all_after {holds : Char → Prop} {c : Char} (hc : holds c) {wording : Wording}
    (h : wording.All holds) : (wording.after c).All holds := by
  match wording, h with
  | ⟨[], last⟩, ⟨hparts, hlast⟩ => exact ⟨hparts, List.forall_mem_cons.mpr ⟨hc, hlast⟩⟩
  | ⟨(before, slot) :: rest, last⟩, ⟨hparts, hlast⟩ =>
    obtain ⟨⟨hbefore, hslot⟩, hrest⟩ := List.forall_mem_cons.mp hparts
    exact ⟨List.forall_mem_cons.mpr ⟨⟨List.forall_mem_cons.mpr ⟨hc, hbefore⟩, hslot⟩, hrest⟩, hlast⟩

/-- The text holds nothing but its parts and its slots in the style. -/
theorem all_text {holds : Char → Prop} {wording : Wording} (h : wording.All holds) {style : SlotStyle}
    (hstyle : ∀ part ∈ wording.parts, ∀ c ∈ style part.2, holds c) : ∀ c ∈ wording.text style, holds c := by
  obtain ⟨parts, last⟩ := wording
  obtain ⟨hparts, hlast⟩ := h
  dsimp only at hparts hlast hstyle
  induction parts with
  | nil => exact hlast
  | cons part rest ih =>
    obtain ⟨⟨htext, _⟩, hparts⟩ := List.forall_mem_cons.mp hparts
    obtain ⟨hslot, hstyle⟩ := List.forall_mem_cons.mp hstyle
    exact List.forall_mem_append.mpr ⟨htext, List.forall_mem_append.mpr ⟨hslot, ih hstyle hparts⟩⟩

/-- The wording of pieces is made of their characters and those of the slots. -/
theorem all_ofPieces {holds : Char → Prop} {slots : List Slot}
    (hslots : ∀ slot ∈ slots, ∀ c ∈ slot.value, holds c) {pieces : List TemplatePiece}
    (hpieces : ∀ c, .literal c ∈ pieces → holds c) : (ofPieces slots pieces).All holds := by
  induction pieces with
  | nil => exact ⟨List.forall_mem_nil _, List.forall_mem_nil _⟩
  | cons piece rest ih =>
    have hrest := ih fun c hc => hpieces c (List.mem_cons_of_mem piece hc)
    cases piece with
    | literal c => exact all_after (hpieces c List.mem_cons_self) hrest
    | fault error => exact hrest
    | field field =>
      rw [ofPieces]
      split
      · next slot hslot =>
        have hmem : slot ∈ slots := List.mem_reverse.mp (List.mem_of_find?_eq_some hslot)
        exact ⟨List.forall_mem_cons.mpr ⟨⟨List.forall_mem_nil _, hslots slot hmem⟩, hrest.1⟩, hrest.2⟩
      · exact hrest

end Wording

namespace Message

variable {message : Message}

/-- A message with plain fields that can be rendered at all is the same text in every style. -/
theorem spelledBy_wording (h : message.IsPlain) {style : SlotStyle} {rendered : Text}
    (hrendered : message.render style = .ok rendered) : message.SpelledBy message.wording :=
  fun style' => Template.renderPieces_of_isPlain h hrendered style' _

theorem all_wording {holds : Char → Prop} (htemplate : ∀ c ∈ message.template, holds c)
    (hslots : ∀ slot ∈ message.slots, ∀ c ∈ slot.value, holds c) : message.wording.All holds :=
  Wording.all_ofPieces hslots fun c hc => htemplate c (Template.mem_of_literal_mem_pieces hc)

end Message

end TemplateAudit
