import TemplateAudit.Proofs.Console.Markup
import TemplateAudit.Proofs.Message.Reference
import TemplateAudit.Report.Print
import TemplateAudit.Rule.Builtin

namespace TemplateAudit

/-- A character to which a console gives no meaning, closing brackets apart. -/
def Console.isInert (c : Char) : Bool := isSteady c && c != '\\' && c != ':'

/-- Whether a console gives no meaning to any part of the text. -/
def Wording.isInert (wording : Wording) : Bool :=
  wording.parts.all (fun part => part.1.all (fun c => Console.isInert c && c != ']')
    && part.2.value.all Console.isInert)
  && wording.last.all fun c => Console.isInert c && c != ']'

section Inert

variable {text : Text} (h : ∀ c ∈ text, Console.isInert c = true)

include h

theorem not_backslash_of_isInert : '\\' ∉ text := fun hmem => absurd (h _ hmem) (by decide)

theorem not_colon_of_isInert : ':' ∉ text := fun hmem => absurd (h _ hmem) (by decide)

theorem isSteady_of_isInert : ∀ c ∈ text, Console.isSteady c = true := by
  intro c hc
  have hinert := h c hc
  simp only [Console.isInert, Bool.and_eq_true] at hinert
  exact hinert.1.1

theorem shownText_of_isInert : StyleTag.shownText text = text := by
  refine StyleTag.shownText_eq_self ?_ ?_ (isSteady_of_isInert h)
  · intro hpair
    exact not_backslash_of_isInert h (hpair.subset List.mem_cons_self)
  · intro code hcode
    exact absurd (hcode.subset List.mem_cons_self) (not_colon_of_isInert h)

theorem getLast?_of_isInert : text.getLast? ≠ some '\\' :=
  fun hlast => not_backslash_of_isInert h (List.mem_of_getLast? hlast)

/-- Without closing brackets nothing in an inert text can be taken for a tag. -/
theorem shown_of_isInert (hclose : ']' ∉ text) : StyleTag.shown text = .ok text := by
  have hshown := StyleTag.shown_protect text
  rwa [StyleTag.protect_of_no_bracket hclose, shownText_of_isInert h] at hshown

theorem taggedLine_of_isInert (hclose : ']' ∉ text) : Console.taggedLine text = .ok (text ++ "\n") := by
  rw [Console.taggedLine, shown_of_isInert h hclose, Except.map,
    Console.verbatimLine_of_steady (isSteady_of_isInert h)]

end Inert

namespace Style

/-- A colour of one word is its own canonical name. -/
theorem canonical_color {word : Text} (hlisted : isListedColor word = true) (hwords : words word = [word])
    (hlower : word.lower = word) (hattribute : attribute? word = none)
    (hnone : (word.trim == ("none" : Text)) = false) : canonical word = .ok word := by
  have hparse : parse word = .ok ⟨[], some word, none, none⟩ := by
    rw [parse, hnone, hwords]
    simp [Wishes.read, Wishes.readWord, hlower, hattribute, checkColor, hlisted, bind, Except.bind,
      pure, Except.pure]
  rw [canonical, hparse]
  rfl

theorem isListedColor_of_getElem? {name : String} {index : Nat} (h : colorNames[index]? = some name) :
    isListedColor name = true := by
  have hany : (colorNames.any fun other => other.toList == name.toList) = true :=
    List.any_eq_true.mpr ⟨name, List.mem_of_getElem? h, beq_self_eq_true _⟩
  simp only [isListedColor, hany, Bool.or_true, Bool.true_or]

end Style

namespace StyleTag

/-- What makes a style name one that tags can name as it is. -/
theorem isStyle_of_canonical {style : Text} (hcanonical : Style.canonical style = .ok style)
    (hstart : (style.head?.any fun c => startsTag c && c != '/' && c != '@') = true)
    (hmarks : (style.all fun c => c != '[' && c != ']' && c != '=') = true)
    (htrimmed : style.trim = style) : IsStyle style := by
  obtain ⟨c, hhead⟩ : ∃ c, style.head? = some c := by
    cases hhead : style.head? with
    | none =>
      rw [hhead] at hstart
      cases hstart
    | some c => exact ⟨c, rfl⟩
  have hc : (startsTag c && c != '/' && c != '@') = true := by rwa [hhead] at hstart
  simp only [Bool.and_eq_true, bne_iff_ne, ne_eq] at hc
  have hmark : ∀ mark : Char, (mark != '[' && mark != ']' && mark != '=') = false → mark ∉ style := by
    intro mark hmark hmem
    rw [List.all_eq_true.mp hmarks mark hmem] at hmark
    cases hmark
  constructor
  case body => exact ⟨⟨c, hhead, hc.1.1⟩, hmark '[' (by decide), hmark ']' (by decide)⟩
  case no_slash =>
    rw [hhead]
    exact fun h => hc.1.2 (Option.some.inj h)
  case no_action =>
    rw [hhead]
    exact fun h => hc.2 (Option.some.inj h)
  case no_parameters => exact hmark '=' (by decide)
  case trimmed => exact htrimmed
  case canonical => exact hcanonical

/-- A listed colour can be named by tags as it is. -/
theorem isStyle_color {name : String} {index : Nat} (hlisted : colorNames[index]? = some name)
    (hwords : Style.words name = [name.toList]) (hlower : Text.lower name = name)
    (hattribute : Style.attribute? name = none) (hnone : (Text.trim name == ("none" : Text)) = false)
    (hstart : (name.toList.head?.any fun c => startsTag c && c != '/' && c != '@') = true)
    (hmarks : (name.toList.all fun c => c != '[' && c != ']' && c != '=') = true)
    (htrimmed : Text.trim name = name) : IsStyle name :=
  isStyle_of_canonical
    (Style.canonical_color (Style.isListedColor_of_getElem? hlisted) hwords hlower hattribute hnone)
    hstart hmarks htrimmed

theorem isStyle_cyan : IsStyle "cyan" :=
  isStyle_color (show colorNames[22]? = _ from rfl) (by decide) (by decide) (by decide) (by decide)
    (by decide) (by decide) (by decide)

theorem isStyle_red : IsStyle "red" :=
  isStyle_color (show colorNames[199]? = _ from rfl) (by decide) (by decide) (by decide) (by decide)
    (by decide) (by decide) (by decide)

theorem isStyle_green : IsStyle "green" :=
  isStyle_color (show colorNames[92]? = _ from rfl) (by decide) (by decide) (by decide) (by decide)
    (by decide) (by decide) (by decide)

theorem isStyle_dim : IsStyle "dim" := isStyle_of_canonical rfl (by decide) (by decide) (by decide)

theorem isStyle_bold : IsStyle "bold" := isStyle_of_canonical rfl (by decide) (by decide) (by decide)

end StyleTag

theorem SlotRole.isStyle_styleName (role : SlotRole) : StyleTag.IsStyle role.styleName := by
  cases role with
  | old => exact StyleTag.isStyle_red
  | new => exact StyleTag.isStyle_green
  | context => exact StyleTag.isStyle_bold

namespace Wording

variable {wording : Wording}

/-- The parts of an inert text are inert, and so are its slots. -/
theorem inert_parts (h : wording.isInert = true) : ∀ part ∈ wording.parts,
    (∀ c ∈ part.1, Console.isInert c = true) ∧ ']' ∉ part.1 ∧
      ∀ c ∈ part.2.value, Console.isInert c = true := by
  intro part hpart
  simp only [isInert, Bool.and_eq_true, List.all_eq_true, bne_iff_ne, ne_eq] at h
  obtain ⟨htext, hvalue⟩ := h.1 part hpart
  exact ⟨fun c hc => (htext c hc).1, fun hmem => (htext _ hmem).2 rfl, hvalue⟩

theorem inert_last (h : wording.isInert = true) :
    (∀ c ∈ wording.last, Console.isInert c = true) ∧ ']' ∉ wording.last := by
  simp only [isInert, Bool.and_eq_true, List.all_eq_true, bne_iff_ne, ne_eq] at h
  exact ⟨fun c hc => (h.2 c hc).1, fun hmem => (h.2 _ hmem).2 rfl⟩

/-- An inert text without its tags is made of inert characters. -/
theorem isInert_of_mem_text (h : wording.isInert = true) :
    ∀ c ∈ wording.text .plain, Console.isInert c = true := by
  have hparts := inert_parts h
  have hlast := inert_last h
  obtain ⟨parts, last⟩ := wording
  simp only [text] at hparts hlast ⊢
  clear h
  induction parts with
  | nil => exact hlast.1
  | cons part parts ih =>
    obtain ⟨⟨htext, _, hvalue⟩, hrest⟩ := List.forall_mem_cons.mp hparts
    rw [List.foldr_cons]
    exact List.forall_mem_append.mpr ⟨htext, List.forall_mem_append.mpr ⟨hvalue, ih hrest⟩⟩

end Wording

namespace Rule

/-- What is said about the focus trap. -/
def focusTrapWording : Wording where
  parts :=
    [("Found deprecated element selector \"", ⟨"old", "cdk-focus-trap", .old⟩),
     ("\" which has been changed to an attribute selector \"", ⟨"new", "[cdkTrapFocus]", .new⟩)]
  last := "\"."

/-- What is said about selection changes. -/
def selectionChangeWording : Wording where
  parts :=
    [("Found deprecated @Output() \"", ⟨"old", "selectionChange", .old⟩),
     ("\" on \"", ⟨"context", "mat-list-option", .context⟩),
     ("\". Use \"", ⟨"new", "selectionChange", .new⟩),
     ("\" on \"", ⟨"new_context", "mat-selection-list", .context⟩)]
  last := "\" instead."

/-- What is said about date changes. -/
def selectedChangedWording : Wording where
  parts :=
    [("Found deprecated @Output() \"", ⟨"old", "selectedChanged", .old⟩),
     ("\" on \"", ⟨"context", "mat-datepicker", .context⟩),
     ("\". Use \"", ⟨"new", "dateChange", .new⟩), ("\" or \"", ⟨"new_alt", "dateInput", .new⟩),
     ("\" on \"", ⟨"new_context", "<input [matDatepicker]>", .context⟩)]
  last := "\" instead."

/-- What is said about the selection of a toggle group. -/
def toggleGroupWording : Wording where
  parts :=
    [("Found deprecated @Input() \"", ⟨"old", "selected", .old⟩),
     ("\" on \"", ⟨"context", "mat-button-toggle-group", .context⟩),
     ("\". Use \"", ⟨"new", "value", .new⟩)]
  last := "\" instead."

-- The literals are read by a lemma before anything is decided, since evaluating them takes long.

theorem focusTrapSelector_spelled : focusTrapSelector.message.SpelledBy focusTrapWording := by
  refine Wording.spelledBy ?_ (by decide +kernel)
  delta focusTrapSelector focusTrapWording
  show (_ ++ _ : Text) = TemplatePart.template [.chunk _, .reference _, .chunk _, .reference _, .chunk _]
  repeat rw [String.toList_ofList]
  decide +kernel

theorem listOptionSelectionChange_spelled : listOptionSelectionChange.message.SpelledBy selectionChangeWording := by
  refine Wording.spelledBy ?_ (by decide +kernel)
  delta listOptionSelectionChange selectionChangeWording
  show (_ ++ _ : Text) = TemplatePart.template
    [.chunk _, .reference _, .chunk _, .reference _, .chunk _, .reference _, .chunk _, .reference _, .chunk _]
  repeat rw [String.toList_ofList]
  decide +kernel

theorem datepickerSelectedChanged_spelled : datepickerSelectedChanged.message.SpelledBy selectedChangedWording := by
  refine Wording.spelledBy ?_ (by decide +kernel)
  delta datepickerSelectedChanged selectedChangedWording
  show (_ ++ _ : Text) = TemplatePart.template
    [.chunk _, .reference _, .chunk _, .reference _, .chunk _, .reference _, .chunk _, .reference _, .chunk _,
      .reference _, .chunk _]
  repeat rw [String.toList_ofList]
  decide +kernel

theorem toggleGroupSelected_spelled : toggleGroupSelected.message.SpelledBy toggleGroupWording := by
  refine Wording.spelledBy ?_ (by decide +kernel)
  delta toggleGroupSelected toggleGroupWording
  show (_ ++ _ : Text) = TemplatePart.template
    [.chunk _, .reference _, .chunk _, .reference _, .chunk _, .reference _, .chunk _]
  repeat rw [String.toList_ofList]
  decide +kernel

/-- The console gives no meaning to anything that the built-in rules say. -/
theorem isInert_wordings :
    ∀ wording ∈ [focusTrapWording, selectionChangeWording, selectedChangedWording, toggleGroupWording],
      wording.isInert = true := by
  delta focusTrapWording selectionChangeWording selectedChangedWording toggleGroupWording
  repeat rw [String.toList_ofList]
  decide +kernel

/-- The messages of the built-in rules can be rendered in any style, and a console gives no meaning to
    what they say. -/
theorem builtin_spelled : ∀ rule ∈ builtin, ∃ wording : Wording,
    rule.message.SpelledBy wording ∧ wording.isInert = true := by
  obtain ⟨hfocusTrap, hselectionChange, hselectedChanged, htoggleGroup, _⟩ := by
    simpa only [List.forall_mem_cons] using isInert_wordings
  simp only [builtin, List.forall_mem_cons]
  exact ⟨⟨_, focusTrapSelector_spelled, hfocusTrap⟩, ⟨_, listOptionSelectionChange_spelled, hselectionChange⟩,
    ⟨_, datepickerSelectedChanged_spelled, hselectedChanged⟩, ⟨_, toggleGroupSelected_spelled, htoggleGroup⟩,
    List.forall_mem_nil _⟩

end Rule

end TemplateAudit
