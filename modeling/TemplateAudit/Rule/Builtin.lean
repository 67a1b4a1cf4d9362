import TemplateAudit.Rule.Basic

namespace TemplateAudit

namespace Rule

/-- The focus trap is now an attribute. -/
def focusTrapSelector : Rule where
  name := "cdk-focus-trap-selector"
  token := "cdk-focus-trap"
  find := selectorFinder "cdk-focus-trap"
  message :=
    { template := ("Found deprecated element selector \"\x7bold\x7d\" which has been " : Text)
        ++ "changed to an attribute selector \"\x7bnew\x7d\"."
      slots := [⟨"old", "cdk-focus-trap", .old⟩, ⟨"new", "[cdkTrapFocus]", .new⟩] }
  name_ne_nil := by decide
  token_ne_nil := by decide

/-- Selection changes are now announced by the list, not by its options. -/
def listOptionSelectionChange : Rule where
  name := "mat-list-option-selection-change"
  token := "selectionChange"
  find := outputFinder "selectionChange" ["mat-list-option"]
  message :=
    { template := ("Found deprecated @Output() \"\x7bold\x7d\" on \"\x7bcontext\x7d\". " : Text)
        ++ "Use \"\x7bnew\x7d\" on \"\x7bnew_context\x7d\" instead."
      slots :=
        [⟨"old", "selectionChange", .old⟩, ⟨"context", "mat-list-option", .context⟩,
         ⟨"new", "selectionChange", .new⟩, ⟨"new_context", "mat-selection-list", .context⟩] }
  name_ne_nil := by decide
  token_ne_nil := by decide

/-- Date changes are now announced by the input of the date picker. -/
def datepickerSelectedChanged : Rule where
  name := "mat-datepicker-selected-changed"
  token := "selectedChanged"
  find := outputFinder "selectedChanged" ["mat-datepicker"]
  message :=
    { template := ("Found deprecated @Output() \"\x7bold\x7d\" on \"\x7bcontext\x7d\". " : Text)
        ++ "Use \"\x7bnew\x7d\" or \"\x7bnew_alt\x7d\" on \"\x7bnew_context\x7d\" instead."
      slots :=
        [⟨"old", "selectedChanged", .old⟩, ⟨"context", "mat-datepicker", .context⟩,
         ⟨"new", "dateChange", .new⟩, ⟨"new_alt", "dateInput", .new⟩,
         ⟨"new_context", "<input [matDatepicker]>", .context⟩] }
  name_ne_nil := by decide
  token_ne_nil := by decide

/-- The selection of a toggle group is now its value. -/
def toggleGroupSelected : Rule where
  name := "mat-button-toggle-group-selected"
  token := "selected"
  find := inputFinder "selected" ["mat-button-toggle-group"]
  message :=
    { template := ("Found deprecated @Input() \"\x7bold\x7d\" on \"\x7bcontext\x7d\". " : Text)
        ++ "Use \"\x7bnew\x7d\" instead."
      slots :=
        [⟨"old", "selected", .old⟩, ⟨"context", "mat-button-toggle-group", .context⟩,
         ⟨"new", "value", .new⟩] }
  name_ne_nil := by decide
  token_ne_nil := by decide

/-- All built-in rules, in the order in which they run. -/
def builtin : List Rule :=
  [focusTrapSelector, listOptionSelectionChange, datepickerSelectedChanged, toggleGroupSelected]

end Rule

end TemplateAudit
