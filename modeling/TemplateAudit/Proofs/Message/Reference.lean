import Mathlib.Data.List.Forall2
import TemplateAudit.Proofs.Message.Placeholder

namespace TemplateAudit

/-- A part of a template: text that is to be shown as it is, or the name of a slot. -/
inductive TemplatePart where
  | chunk (text : Text)
  | reference (name : Text)
deriving DecidableEq, Repr

/-- The text with its braces doubled. -/
def Text.doubleBraces (text : Text) : Text := text.flatMap fun c => if c = '\x7b' ∨ c = '\x7d' then [c, c] else [c]

/-- The number that the decimal digits at the start of the text spell; zero if there are none. -/
def Text.leadingValue (text : Text) : Nat :=
  (text.takeWhile isDecimalDigit).foldl (fun n c => 10 * n + (digitValue? c).getD 0) 0

namespace TemplatePart

/-- How a part is written in a template. -/
def written : TemplatePart → Text
  | chunk text => text.doubleBraces
  | reference name => '\x7b' :: (name ++ ['\x7d'])

/-- The pieces that are read from a part. -/
def pieces : TemplatePart → List TemplatePiece
  | chunk text => text.map .literal
  | reference name => [.field ⟨name, none, []⟩]

/-- The template that is written from parts. -/
def template (parts : List TemplatePart) : Text := parts.flatMap written

/-- What the part shows: a chunk itself, and a reference the last slot with its name, unless the name starts with
    a number that is too large. -/
inductive Shows (style : SlotStyle) (slots : List Slot) : TemplatePart → Text → Prop where
  | chunk (text : Text) : Shows style slots (chunk text) text
  | reference {before after : List Slot} {slot : Slot} (hslots : slots = before ++ slot :: after)
      (hlast : ∀ later ∈ after, later.name ≠ slot.name) (hfits : slot.name.leadingValue ≤ Layout.maxNumber) :
      Shows style slots (reference slot.name) (style slot)

end TemplatePart

/-- A reference to the name can be shown: a slot has it, and the number it starts with is not too large. -/
structure IsAvailable (slots : List Slot) (name : Text) : Prop where
  fits : name.leadingValue ≤ Layout.maxNumber
  slot : ∃ slot ∈ slots, slot.name = name

/-- Whether a character means something in a field. -/
def isFieldMark (c : Char) : Bool :=
  c == '\x7b' || c == '\x7d' || c == '.' || c == '[' || c == ']' || c == '!' || c == ':'

/-- A name that a reference can have: it is not empty and does not consist of digits, and no character in it means
    anything in a field. -/
structure IsSlotName (name : Text) : Prop where
  not_digits : ∃ c ∈ name, isDecimalDigit c = false
  no_mark : ∀ c ∈ name, isFieldMark c = false

instance (name : Text) : Decidable (IsSlotName name) :=
  decidable_of_iff (name.any (!isDecimalDigit ·) = true ∧ name.all (!isFieldMark ·) = true)
    ⟨fun h => ⟨by simpa using h.1, by simpa using h.2⟩,
      fun h => ⟨by simpa using h.not_digits, by simpa using h.no_mark⟩⟩

namespace Layout

theorem digitValue?_le {c : Char} {d : Nat} (h : digitValue? c = some d) : d ≤ 9 := by
  obtain ⟨start, hstart, rfl⟩ := Option.map_eq_some_iff.mp h
  have hcovers := List.find?_some hstart
  simp only [Bool.and_eq_true, decide_eq_true_eq] at hcovers
  omega

/-- Digits make a number larger. -/
theorem le_foldl_digits (digits : Text) (n : Nat) :
    n ≤ digits.foldl (fun n c => 10 * n + (digitValue? c).getD 0) n := by
  induction digits generalizing n with
  | nil => exact Nat.le_refl n
  | cons c digits ih =>
    have hlater := ih (10 * n + (digitValue? c).getD 0)
    rw [List.foldl_cons]
    omega

/-- A name that is not all digits is no number, but it is refused if the number it starts with is too large. -/
theorem number?_go {text : Text} (h : ∃ c ∈ text, isDecimalDigit c = false) {n : Nat} (hn : n ≤ maxNumber) :
    number?.go n text =
      if (text.takeWhile isDecimalDigit).foldl (fun n c => 10 * n + (digitValue? c).getD 0) n ≤ maxNumber then
        .ok none
      else .error .numberTooLong := by
  induction text generalizing n with
  | nil => simp at h
  | cons c rest ih =>
    rw [number?.go]
    cases hdigit : digitValue? c with
    | none =>
      have hc : isDecimalDigit c = false := by rw [isDecimalDigit, hdigit, Option.isSome_none]
      rw [List.takeWhile_cons_of_neg (by simp [hc]), List.foldl_nil, if_pos hn]
    | some d =>
      have hc : isDecimalDigit c = true := by rw [isDecimalDigit, hdigit, Option.isSome_some]
      have hbound := digitValue?_le hdigit
      have hmax : 9 ≤ maxNumber := by decide
      rw [List.takeWhile_cons_of_pos hc, List.foldl_cons, hdigit, Option.getD_some]
      dsimp only
      by_cases hroom : 10 * n + d ≤ maxNumber
      · rw [if_neg (by omega)]
        refine ih ?_ hroom
        obtain ⟨other, hmem, hother⟩ := h
        obtain rfl | hmem := List.mem_cons.mp hmem
        · rw [hc] at hother
          cases hother
        · exact ⟨other, hmem, hother⟩
      · have hlarge := le_foldl_digits (rest.takeWhile isDecimalDigit) (10 * n + d)
        rw [if_pos (by omega), if_neg (by omega)]

/-- A name that does not consist of digits is no number, but the digits it starts with must not be too many. -/
theorem number?_of_not_digits {text : Text} (h : ∃ c ∈ text, isDecimalDigit c = false) :
    number? text = if text.leadingValue ≤ maxNumber then .ok none else .error .numberTooLong := by
  obtain ⟨c, hmem, hc⟩ := h
  rw [number?, if_neg (by simpa using List.ne_nil_of_mem hmem)]
  exact number?_go ⟨c, hmem, hc⟩ (Nat.zero_le _)

end Layout

namespace IsSlotName

variable {name : Text} (h : IsSlotName name)

include h

theorem ne_nil : name ≠ [] := by
  obtain ⟨c, hmem, _⟩ := h.not_digits
  exact List.ne_nil_of_mem hmem

theorem isPlain : TemplateField.IsPlain ⟨name, none, []⟩ where
  conversion := rfl
  layout := rfl
  no_point := fun hmem => absurd (h.no_mark _ hmem) (by decide)
  no_bracket := fun hmem => absurd (h.no_mark _ hmem) (by decide)

/-- A field is read from a reference up to its closing brace, whatever follows. -/
theorem readField_eq (rest : Text) :
    Template.readField (name ++ '\x7d' :: rest) = .ok (⟨name, none, []⟩, rest) := by
  have hread : ∀ name : Text, (∀ c ∈ name, isFieldMark c = false) →
      Template.readName false (name ++ '\x7d' :: rest) = .ok (name, '\x7d', rest) := by
    intro name hname
    induction name with
    | nil => rfl
    | cons c name ih =>
      obtain ⟨hc, hname⟩ := List.forall_mem_cons.mp hname
      simp only [isFieldMark, Bool.or_eq_false_iff, beq_eq_false_iff_ne] at hc
      obtain ⟨⟨⟨⟨⟨⟨hopen, hclose⟩, _⟩, hbracket⟩, _⟩, hmark⟩, hcolon⟩ := hc
      have hplain : (c == '[') = false := by simpa using hbracket
      simp [Template.readName, hopen, hclose, hmark, hcolon, hplain, ih hname, Except.map]
  rw [Template.readField, hread name h.no_mark]
  rfl

end IsSlotName

namespace Template

theorem pieces_of_not_brace {c : Char} (hopen : c ≠ '\x7b') (hclose : c ≠ '\x7d') (rest : Text) :
    pieces (c :: rest) = .literal c :: pieces rest := by
  rw [pieces.eq_def]
  simp only [if_neg hopen, if_neg hclose]

/-- A field that can be read behind an opening brace is one piece. -/
theorem pieces_of_field {c : Char} (hopen : c ≠ '\x7b') {rest after : Text} {field : TemplateField}
    (h : readField (c :: rest) = .ok (field, after)) :
    pieces ('\x7b' :: c :: rest) = .field field :: pieces after := by
  rw [pieces.eq_def]
  simp only [if_true, if_neg hopen]
  split
  · next error herror =>
    rw [h] at herror
    cases herror
  · next found remaining hfound =>
    obtain ⟨rfl, rfl⟩ := Prod.mk.inj (Except.ok.inj (h.symm.trans hfound))
    rfl

end Template

namespace TemplatePart

/-- A chunk is read character by character, and ends where it was written to end. -/
theorem pieces_doubleBraces (text rest : Text) :
    Template.pieces (text.doubleBraces ++ rest) = text.map .literal ++ Template.pieces rest := by
  induction text with
  | nil => rfl
  | cons c text ih =>
    rw [Text.doubleBraces, List.flatMap_cons, List.append_assoc, ← Text.doubleBraces, List.map_cons, List.cons_append,
      ← ih]
    by_cases hopen : c = '\x7b'
    · subst hopen
      simp [Template.pieces]
    · by_cases hclose : c = '\x7d'
      · subst hclose
        simp [Template.pieces]
      · simp only [hopen, hclose, or_self, if_false, List.singleton_append]
        exact Template.pieces_of_not_brace hopen hclose _

/-- A reference is read as a field. -/
theorem pieces_reference {name : Text} (h : IsSlotName name) (rest : Text) :
    Template.pieces ((reference name).written ++ rest) =
      .field ⟨name, none, []⟩ :: Template.pieces rest := by
  have hread := h.readField_eq rest
  obtain ⟨c, name, rfl⟩ := List.exists_cons_of_ne_nil h.ne_nil
  have hc : c ≠ '\x7b' := by
    rintro rfl
    exact absurd (h.no_mark _ List.mem_cons_self) (by decide)
  rw [written, List.cons_append, List.append_assoc, List.singleton_append]
  exact Template.pieces_of_field hc hread

/-- What is read from parts is what was written. -/
theorem pieces_template {parts : List TemplatePart} (h : ∀ name, reference name ∈ parts → IsSlotName name) :
    Template.pieces (template parts) = parts.flatMap pieces := by
  induction parts with
  | nil => simp [template, Template.pieces]
  | cons part rest ih =>
    have hrest := ih fun name hname => h name (List.mem_cons_of_mem part hname)
    rw [template, List.flatMap_cons, ← template, List.flatMap_cons, ← hrest]
    cases part with
    | chunk text => exact pieces_doubleBraces text _
    | reference name => exact pieces_reference (h name List.mem_cons_self) _

end TemplatePart

namespace Slot

variable {slots : List Slot}

theorem lookUp?_eq_none {name : Text} (h : ∀ slot ∈ slots, slot.name ≠ name) (style : SlotStyle) :
    lookUp? style slots name = none := by
  have hnone : slots.reverse.find? (·.name == name) = none := by
    refine List.find?_eq_none.mpr fun slot hslot hname => h slot (List.mem_reverse.mp hslot) ?_
    simpa using hname
  rw [lookUp?, hnone, Option.map_none]

/-- Of several slots with one name the last is looked up. -/
theorem lookUp?_eq_some {before after : List Slot} {slot : Slot} (h : ∀ later ∈ after, later.name ≠ slot.name)
    (style : SlotStyle) : lookUp? style (before ++ slot :: after) slot.name = some (style slot) := by
  have hfind : (before ++ slot :: after).reverse.find? (·.name == slot.name) = some slot := by
    rw [List.reverse_append, List.reverse_cons, List.append_assoc, List.find?_append]
    have hafter : after.reverse.find? (·.name == slot.name) = none := by
      refine List.find?_eq_none.mpr fun later hlater hname => h later (List.mem_reverse.mp hlater) ?_
      simpa using hname
    simp [hafter]
  rw [lookUp?, hfind, Option.map_some]

/-- Among the slots with a name there is a last one. -/
theorem exists_last {name : Text} (h : ∃ slot ∈ slots, slot.name = name) :
    ∃ (before : List Slot) (slot : Slot) (after : List Slot), slots = before ++ slot :: after ∧ slot.name = name ∧
      ∀ later ∈ after, later.name ≠ name := by
  induction slots with
  | nil => simp at h
  | cons first rest ih =>
    by_cases hrest : ∃ slot ∈ rest, slot.name = name
    · obtain ⟨before, slot, after, rfl, hname, hlast⟩ := ih hrest
      exact ⟨first :: before, slot, after, rfl, hname, hlast⟩
    · obtain ⟨slot, hmem, hname⟩ := h
      obtain rfl | hmem := List.mem_cons.mp hmem
      · exact ⟨[], slot, rest, rfl, hname, fun later hlater heq => hrest ⟨later, hlater, heq⟩⟩
      · exact absurd ⟨slot, hmem, hname⟩ hrest

end Slot

namespace Template

variable (expand : Text → Except TemplateError Text)

/-- Literals are rendered as they are. -/
theorem renderPieces_literals (values : Text → Option Text) (text : Text) (rest : List TemplatePiece) :
    renderPieces expand values (text.map .literal ++ rest) = (renderPieces expand values rest).map (text ++ ·) := by
  induction text with
  | nil =>
    rw [List.map_nil, List.nil_append]
    cases renderPieces expand values rest <;> rfl
  | cons c text ih =>
    rw [List.map_cons, List.cons_append, renderPieces, ih]
    cases renderPieces expand values rest <;> rfl

/-- A reference shows the value of its name, if the number its name starts with is not too large. -/
theorem renderField_reference {name : Text} (h : IsSlotName name) (values : Text → Option Text) :
    renderField expand values ⟨name, none, []⟩ =
      if name.leadingValue ≤ Layout.maxNumber then
        match values name with
        | none => .error (.unknownSlot name)
        | some shown => .ok shown
      else .error .numberTooLong := by
  have hname : ¬ name.isEmpty = true := by simpa using h.ne_nil
  rw [renderField_eq_map_lookUp h.isPlain, lookUp, takeWhile_name_of_isPlain h.isPlain, List.drop_length,
    Layout.number?_of_not_digits h.not_digits]
  by_cases hfits : name.leadingValue ≤ Layout.maxNumber
  · simp only [if_pos hfits, if_neg hname]
    cases values name <;> rfl
  · simp only [if_neg hfits]
    rfl

end Template

namespace TemplatePart

variable {parts : List TemplatePart} {slots : List Slot} {style : SlotStyle}

theorem Shows.lookUp?_eq {name shown : Text} (h : Shows style slots (.reference name) shown) :
    Slot.lookUp? style slots name = some shown := by
  cases h with
  | reference hslots hlast _ => rw [hslots, Slot.lookUp?_eq_some hlast]

/-- Parts that show something are shown one after another, whatever stands behind them. -/
theorem renderPieces_of_shows (expand : Text → Except TemplateError Text) {texts : List Text}
    (h : List.Forall₂ (Shows style slots) parts texts) (hnames : ∀ name, reference name ∈ parts → IsSlotName name)
    (rest : List TemplatePiece) :
    Template.renderPieces expand (Slot.lookUp? style slots) (parts.flatMap pieces ++ rest) =
      (Template.renderPieces expand (Slot.lookUp? style slots) rest).map (texts.flatten ++ ·) := by
  induction h with
  | nil =>
    rw [List.flatMap_nil, List.nil_append]
    cases Template.renderPieces expand (Slot.lookUp? style slots) rest <;> rfl
  | @cons part text parts texts hpart _ ih =>
    have hlater := ih fun name hname => hnames name (List.mem_cons_of_mem part hname)
    rw [List.flatMap_cons, List.append_assoc]
    cases hpart with
    | chunk =>
      rw [pieces, Template.renderPieces_literals, hlater]
      cases Template.renderPieces expand (Slot.lookUp? style slots) rest <;> simp [Except.map]
    | reference hslots hlast hfits =>
      have hshown := (Shows.reference hslots hlast hfits : Shows style slots _ _).lookUp?_eq
      rw [pieces, List.singleton_append, Template.renderPieces,
        Template.renderField_reference expand (hnames _ List.mem_cons_self), if_pos hfits, hshown, hlater]
      cases Template.renderPieces expand (Slot.lookUp? style slots) rest <;> simp [Except.map]

/-- Parts all of whose references can be shown show something. -/
theorem exists_shows (h : ∀ name, reference name ∈ parts → IsAvailable slots name) (style : SlotStyle) :
    ∃ texts, List.Forall₂ (Shows style slots) parts texts := by
  induction parts with
  | nil => exact ⟨[], .nil⟩
  | cons part rest ih =>
    obtain ⟨texts, htexts⟩ := ih fun name hname => h name (List.mem_cons_of_mem part hname)
    cases part with
    | chunk text => exact ⟨text :: texts, .cons (.chunk text) htexts⟩
    | reference name =>
      obtain ⟨hfits, hslot⟩ := h name List.mem_cons_self
      obtain ⟨before, slot, after, hslots, rfl, hlast⟩ := Slot.exists_last hslot
      exact ⟨style slot :: texts, .cons (.reference hslots hlast hfits) htexts⟩

theorem render_eq (hnames : ∀ name, reference name ∈ parts → IsSlotName name) (slots : List Slot)
    (style : SlotStyle) :
    Message.render ⟨template parts, slots⟩ style =
      Template.renderPieces (Template.renderAt 1 (Slot.lookUp? style slots)) (Slot.lookUp? style slots)
        (parts.flatMap pieces) := by
  rw [Message.render, Template.render, Template.renderAt, pieces_template hnames]

/-- The first reference that cannot be shown decides, whatever stands behind it. -/
theorem renderPieces_of_unavailable (expand : Text → Except TemplateError Text) {before after : List TemplatePart}
    {name : Text} (hnames : ∀ other, reference other ∈ before ++ reference name :: after → IsSlotName other)
    (hbefore : ∀ earlier, reference earlier ∈ before → IsAvailable slots earlier) {error : TemplateError}
    (h : Template.renderField expand (Slot.lookUp? style slots) ⟨name, none, []⟩ = .error error) :
    Template.renderPieces expand (Slot.lookUp? style slots) ((before ++ reference name :: after).flatMap pieces) =
      .error error := by
  obtain ⟨texts, htexts⟩ := exists_shows hbefore style
  rw [List.flatMap_append, List.flatMap_cons,
    renderPieces_of_shows expand htexts fun other hother => hnames other (List.mem_append_left _ hother)]
  simp only [pieces, List.singleton_append, Template.renderPieces, h]
  rfl

/-- Only the values of the names that are referred to matter. -/
theorem renderPieces_congr (hnames : ∀ name, reference name ∈ parts → IsSlotName name)
    (expand expand' : Text → Except TemplateError Text) {values values' : Text → Option Text}
    (h : ∀ name, reference name ∈ parts → values name = values' name) :
    Template.renderPieces expand values (parts.flatMap pieces) =
      Template.renderPieces expand' values' (parts.flatMap pieces) := by
  induction parts with
  | nil => rfl
  | cons part rest ih =>
    have hrest := ih (fun name hname => hnames name (List.mem_cons_of_mem part hname))
      fun name hname => h name (List.mem_cons_of_mem part hname)
    rw [List.flatMap_cons]
    cases part with
    | chunk text => rw [pieces, Template.renderPieces_literals, Template.renderPieces_literals, hrest]
    | reference name =>
      have hname := hnames name List.mem_cons_self
      rw [pieces, List.singleton_append, Template.renderPieces, Template.renderPieces,
        Template.renderField_reference expand hname, Template.renderField_reference expand' hname,
        h name List.mem_cons_self, hrest]

/-- Slots that nothing refers to do not change what a name stands for. -/
theorem lookUp?_filter {name : Text} (h : reference name ∈ parts) (slots : List Slot) (style : SlotStyle) :
    Slot.lookUp? style (slots.filter fun slot => reference slot.name ∈ parts) name =
      Slot.lookUp? style slots name := by
  rw [Slot.lookUp?, Slot.lookUp?, ← List.filter_reverse, List.find?_filter]
  congr 2
  funext slot
  by_cases hname : slot.name = name
  · simp [hname, h]
  · simp [hname]

/-- A template shows its chunks as they are, and for each reference the last slot with its name, in the given style
    and without being read again, if all references can be shown. Otherwise the first that cannot is reported: the
    number its name starts with is too large, or else no slot has it. Slots that nothing refers to do not matter. -/
theorem render_template (hnames : ∀ name, reference name ∈ parts → IsSlotName name) (slots : List Slot)
    (style : SlotStyle) :
    ((∀ name, reference name ∈ parts → IsAvailable slots name) →
      ∃ texts, List.Forall₂ (Shows style slots) parts texts ∧
        Message.render ⟨template parts, slots⟩ style = .ok texts.flatten) ∧
      (∀ before name after, parts = before ++ reference name :: after →
        (∀ earlier, reference earlier ∈ before → IsAvailable slots earlier) →
          (Layout.maxNumber < name.leadingValue →
            Message.render ⟨template parts, slots⟩ style = .error .numberTooLong) ∧
          (name.leadingValue ≤ Layout.maxNumber → (∀ slot ∈ slots, slot.name ≠ name) →
            Message.render ⟨template parts, slots⟩ style = .error (.unknownSlot name))) ∧
      ∀ others : List Slot, (others.filter fun slot => reference slot.name ∈ parts) =
          (slots.filter fun slot => reference slot.name ∈ parts) →
        Message.render ⟨template parts, others⟩ style = Message.render ⟨template parts, slots⟩ style := by
  refine ⟨fun havailable => ?_, ?_, fun others hsame => ?_⟩
  · obtain ⟨texts, htexts⟩ := exists_shows havailable style
    refine ⟨texts, htexts, ?_⟩
    have hrender := renderPieces_of_shows (Template.renderAt 1 (Slot.lookUp? style slots)) htexts hnames []
    rw [List.append_nil] at hrender
    rw [render_eq hnames, hrender]
    simp [Template.renderPieces, Except.map]
  · rintro before name after rfl hbefore
    have hname := hnames name (by simp)
    rw [render_eq hnames]
    constructor
    · intro hlarge
      refine renderPieces_of_unavailable _ hnames hbefore ?_
      rw [Template.renderField_reference _ hname, if_neg (Nat.not_le.mpr hlarge)]
    · intro hfits hnone
      refine renderPieces_of_unavailable _ hnames hbefore ?_
      rw [Template.renderField_reference _ hname, if_pos hfits, Slot.lookUp?_eq_none hnone]
  · rw [render_eq hnames, render_eq hnames]
    refine renderPieces_congr hnames _ _ fun name hname => ?_
    rw [← lookUp?_filter hname others, hsame, lookUp?_filter hname]

/-- Braces next to references, a value with braces, and a name of which only the second slot counts; without a slot
    for the second name, that name is reported. -/
theorem render_template_braces :
    let parts := [chunk "\x7ba", reference "old", chunk "\x7d", reference "new"]
    let slots : List Slot := [⟨"old", "x", .old⟩, ⟨"old", "\x7bnew\x7d", .old⟩, ⟨"new", "y", .new⟩]
    (∀ name, reference name ∈ parts → IsSlotName name) ∧
      (∀ name, reference name ∈ parts → IsAvailable slots name) ∧
      Message.render ⟨"\x7b\x7ba\x7bold\x7d\x7d\x7d\x7bnew\x7d", slots⟩ SlotStyle.plain =
        .ok "\x7ba\x7bnew\x7d\x7dy" ∧
      Message.render ⟨"\x7b\x7ba\x7bold\x7d\x7d\x7d\x7bnew\x7d", slots.take 2⟩ SlotStyle.plain =
        .error (.unknownSlot "new") := by
  intro parts slots
  have hreference : ∀ {name : Text}, reference name ∈ parts → name = "old" ∨ name = "new" := by
    intro name hname
    simpa [parts] using hname
  have hnames : ∀ name, reference name ∈ parts → IsSlotName name := by
    intro name hname
    obtain rfl | rfl := hreference hname
    · exact ⟨⟨'o', by decide, by decide⟩, by simp [isFieldMark]⟩
    · exact ⟨⟨'n', by decide, by decide⟩, by simp [isFieldMark]⟩
  have havailable : ∀ name, reference name ∈ parts → IsAvailable slots name := by
    intro name hname
    obtain rfl | rfl := hreference hname
    · exact ⟨by decide +kernel, ⟨"old", "x", .old⟩, by simp [slots], rfl⟩
    · exact ⟨by decide +kernel, ⟨"new", "y", .new⟩, by simp [slots], rfl⟩
  refine ⟨hnames, havailable, ?_, ?_⟩
  · obtain ⟨texts, htexts, hrender⟩ := (render_template hnames slots SlotStyle.plain).1 havailable
    have hold : Slot.lookUp? SlotStyle.plain slots "old" = some "\x7bnew\x7d" := rfl
    have hnew : Slot.lookUp? SlotStyle.plain slots "new" = some "y" := rfl
    obtain ⟨_, _, ⟨⟩, hreferences, rfl⟩ := List.forall₂_cons_left_iff.mp htexts
    obtain ⟨first, _, hfirst, hbehind, rfl⟩ := List.forall₂_cons_left_iff.mp hreferences
    obtain ⟨_, _, ⟨⟩, hlater, rfl⟩ := List.forall₂_cons_left_iff.mp hbehind
    obtain ⟨second, _, hsecond, hend, rfl⟩ := List.forall₂_cons_left_iff.mp hlater
    obtain rfl := List.forall₂_nil_left_iff.mp hend
    obtain rfl := Option.some.inj (hold.symm.trans hfirst.lookUp?_eq)
    obtain rfl := Option.some.inj (hnew.symm.trans hsecond.lookUp?_eq)
    exact hrender
  · obtain ⟨_, hfirst, _⟩ := render_template hnames (slots.take 2) SlotStyle.plain
    refine (hfirst [chunk "\x7ba", reference "old", chunk "\x7d"] "new" [] rfl ?_).2 (by decide +kernel) (by decide)
    intro earlier hearlier
    obtain rfl : earlier = "old" := by simpa using hearlier
    exact ⟨by decide +kernel, ⟨"old", "x", .old⟩, by simp [slots], rfl⟩

/-- A name that starts with too large a number is refused although a slot has it, so not every reference that has a
    slot can be shown. -/
theorem render_refuses_leading_number :
    let name : Text := "9223372036854775808a"
    IsSlotName name ∧
      Message.render ⟨template [reference name], [⟨name, "v", .old⟩]⟩ SlotStyle.plain = .error .numberTooLong ∧
      ¬ ∀ (parts : List TemplatePart) (slots : List Slot) (style : SlotStyle),
        (∀ name, reference name ∈ parts → IsSlotName name) →
          (∀ name, reference name ∈ parts → ∃ slot ∈ slots, slot.name = name) →
            ∃ shown, Message.render ⟨template parts, slots⟩ style = .ok shown := by
  intro name
  have hname : IsSlotName name := ⟨⟨'a', by decide, by decide⟩, by simp [name, isFieldMark]⟩
  have hnames : ∀ other, reference other ∈ [reference name] → IsSlotName other := by
    intro other hother
    obtain rfl : other = name := by simpa using hother
    exact hname
  have hlarge : ¬ name.leadingValue ≤ Layout.maxNumber := by decide +kernel
  have hrefused : Message.render ⟨template [reference name], [⟨name, "v", .old⟩]⟩ SlotStyle.plain =
      .error .numberTooLong := by
    rw [render_eq hnames]
    have hfirst : ∀ other, reference other ∈ [] ++ reference name :: [] → IsSlotName other := hnames
    refine renderPieces_of_unavailable _ hfirst (by simp) ?_
    rw [Template.renderField_reference _ hname, if_neg hlarge]
  refine ⟨hname, hrefused, fun h => ?_⟩
  obtain ⟨shown, hshown⟩ := h [reference name] [⟨name, "v", .old⟩] SlotStyle.plain hnames (by simp)
  rw [hrefused] at hshown
  cases hshown

end TemplatePart

namespace Wording

open TemplatePart

variable {wording : Wording} {slots : List Slot}

/-- The parts of a template that says the wording. -/
def templateParts (wording : Wording) : List TemplatePart :=
  wording.parts.flatMap (fun part => [chunk part.1, reference part.2.name]) ++ [chunk wording.last]

/-- The slots of the wording can be referred to: each is the last one with its name. -/
def IsReferable (wording : Wording) (slots : List Slot) : Prop :=
  ∀ part ∈ wording.parts, Slot.find? slots part.2.name = some part.2 ∧ IsSlotName part.2.name ∧
    part.2.name.leadingValue ≤ Layout.maxNumber

instance : Decidable (wording.IsReferable slots) :=
  inferInstanceAs (Decidable (∀ part ∈ wording.parts, _ ∧ _ ∧ _))

/-- The slot that is found for its own name is the last one with that name. -/
theorem shows_reference {slot : Slot} (hfind : Slot.find? slots slot.name = some slot)
    (hfits : slot.name.leadingValue ≤ Layout.maxNumber) (style : SlotStyle) :
    Shows style slots (reference slot.name) (style slot) := by
  obtain ⟨_, later, earlier, hslots, hlater⟩ := List.find?_eq_some_iff_append.mp hfind
  have hsplit : slots = earlier.reverse ++ slot :: later.reverse := by
    rw [← List.reverse_reverse slots, hslots, List.reverse_append, List.reverse_cons, List.append_assoc]
    rfl
  refine .reference hsplit (fun other hother => ?_) hfits
  simpa using hlater other (List.mem_reverse.mp hother)

/-- Where the slots can be referred to, the parts of a wording show the wording. -/
theorem exists_shows_templateParts (h : wording.IsReferable slots) (style : SlotStyle) :
    ∃ texts, List.Forall₂ (Shows style slots) wording.templateParts texts ∧
      texts.flatten = wording.text style := by
  obtain ⟨parts, last⟩ := wording
  induction parts with
  | nil => exact ⟨[last], .cons (.chunk last) .nil, List.append_nil last⟩
  | cons part parts ih =>
    obtain ⟨⟨hfind, _, hfits⟩, hparts⟩ := List.forall_mem_cons.mp h
    obtain ⟨texts, htexts, hflatten⟩ := ih hparts
    have hreference := shows_reference hfind hfits style
    refine ⟨part.1 :: style part.2 :: texts, .cons (.chunk part.1) (.cons hreference htexts), ?_⟩
    rw [List.flatten_cons, List.flatten_cons, hflatten]
    rfl

/-- A message whose template is written from the wording is spelled by it. -/
theorem spelledBy {message : Message} (htemplate : message.template = template wording.templateParts)
    (h : wording.IsReferable message.slots) : message.SpelledBy wording := by
  intro style
  have hnames : ∀ name, reference name ∈ wording.templateParts → IsSlotName name := by
    intro name hname
    obtain ⟨part, hpart, rfl⟩ : ∃ part ∈ wording.parts, name = part.2.name := by
      simpa [templateParts] using hname
    exact (h part hpart).2.1
  obtain ⟨texts, htexts, hflatten⟩ := exists_shows_templateParts h style
  have hrender := renderPieces_of_shows (Template.renderAt 1 (Slot.lookUp? style message.slots)) htexts hnames []
  rw [List.append_nil] at hrender
  have hmessage : message = ⟨template wording.templateParts, message.slots⟩ := by rw [← htemplate]
  rw [hmessage, render_eq hnames, hrender, ← hflatten]
  simp [Template.renderPieces, Except.map]

end Wording

end TemplateAudit
