import TemplateAudit.CommandLine.Run
import TemplateAudit.Proofs.Report.Header
import TemplateAudit.Proofs.Text.Decimal

namespace TemplateAudit

open StyleTag

/-- The text with a backslash that stands alone at its end doubled. -/
def StyleTag.evened (text : Text) : Text := text ++ if endsInLoneBackslash text then ['\\'] else []

/-- A text is made safe by evening its last backslash and protecting it. -/
theorem StyleTag.escape_eq_protect (text : Text) : escape text = protect (evened text) := escape_eq text

theorem StyleTag.bracket_not_mem_evened {text : Text} (h : ']' ∉ text) : ']' ∉ evened text := by
  rw [evened, List.mem_append, not_or]
  exact ⟨h, by split <;> decide⟩

/-- What is said about faulty bytes has no bracket. -/
theorem Utf8Error.bracket_not_mem_message (error : Utf8Error) : ']' ∉ error.message := by
  have hhex : ∀ n < 256, ']' ∉ Text.hex 2 n := by decide +kernel
  have hdigits : ∀ n, ']' ∉ Text.ofNat n := Text.not_mem_ofNat (by decide)
  have hreason : ']' ∉ error.fault.reason := by cases error.fault <;> decide +kernel
  unfold message
  dsimp only
  split
  · next byte _ =>
    simp [hhex byte.toNat byte.toNat_lt, hdigits, hreason]
  · simp [hdigits, hreason]

/-- A complaint about a file starts with a bracket or has none that closes. -/
theorem FileError.message_cases (error : FileError) :
    (∃ rest, error.message = '[' :: rest) ∨ ']' ∉ error.message := by
  cases error with
  | path fault name => cases fault <;> exact .inl ⟨_, rfl⟩
  | nullCharacter => exact .inr (by decide +kernel)
  | encoding error => exact .inr error.bracket_not_mem_message

/-- Before the complaint about a file, text that ends in a blank is protected apart. -/
theorem FileError.protect_append_message (error : FileError) {text : Text}
    (hlast : text.getLast? ≠ some '\\') :
    protect (text ++ evened error.message) = protect text ++ protect (evened error.message) := by
  obtain ⟨rest, hopen⟩ | hclose := error.message_cases
  · rw [evened, hopen, List.cons_append]
    exact protect_append_open hlast _
  · have hnone := bracket_not_mem_evened hclose
    rw [protect_append hnone, protect_of_no_bracket hnone]

namespace CommandLine

/-- The line that shows a complaint, behind a cross in red. -/
def errorLine (complaint : Text) : Text := Console.verbatimLine ("✗" ++ shownText (" " ++ complaint))

/-- A protected complaint can be shown, whatever it says. -/
theorem complaintLine_protect (complaint : Text) :
    complaintLine (protect complaint) = .ok (errorLine complaint) := by
  have hcross : ∀ c ∈ ("✗" : Text), Console.isInert c = true := List.all_eq_true.mp (by decide +kernel)
  have htext : ("[red]✗[/red] " : Text) ++ protect complaint =
      styledText [⟨[], "red", "✗"⟩] (" " ++ complaint) := by
    have hred : protect ("✗" : Text) = "✗" := protect_of_no_bracket (by decide)
    have hblank : protect (" " ++ complaint) = " " ++ protect complaint := protect_append_plain (by decide) _
    simp only [styledText, protect_nil, hred, hblank, List.nil_append]
    rfl
  have hsound : ∀ span ∈ [(⟨[], "red", "✗"⟩ : Span)], span.IsSound :=
    List.forall_mem_singleton.mpr ⟨isStyle_red, by simp, getLast?_of_isInert hcross⟩
  have hnothing : shownText [] = [] := by rw [shownText, cuts_nil, List.flatMap_nil]
  rw [complaintLine, htext, Console.taggedLine, shown_styledText hsound]
  simp only [shownSpans, hnothing, shownText_of_isInert hcross, List.nil_append]
  rfl

/-- What is complained about where an audit stops; for some reasons there are no words. -/
def complaint? : AuditStop → Option Text
  | .missing path => some ("Path not found: " ++ evened path.text)
  | .unreadable path error =>
    some ("Could not read " ++ evened path.text ++ ": " ++ evened error.message)
  | .crash _ => none

/-- The complaint about an audit that stops can be shown, if there are words for it. -/
theorem stopLine_of_complaint? {stop : AuditStop} {complaint : Text} (h : complaint? stop = some complaint) :
    stopLine stop = .ok (errorLine complaint) := by
  cases stop with
  | missing path =>
    obtain rfl := Option.some.inj h
    rw [stopLine, escape_eq_protect, ← protect_append_plain (by decide), complaintLine_protect]
  | unreadable path error =>
    obtain rfl := Option.some.inj h
    have hend : (("Could not read " : Text) ++ evened path.text ++ ": ").getLast? = some ' ' := by
      rw [List.getLast?_append]
      rfl
    have hlast : (("Could not read " : Text) ++ evened path.text ++ ": ").getLast? ≠ some '\\' := by
      rw [hend]
      decide
    have hread : ("Could not read " : Text).all (fun c => c != '[' && c != '\\') = true := by decide
    have hprotected : protect (("Could not read " : Text) ++ evened path.text ++ ": ") =
        "Could not read " ++ protect (evened path.text) ++ ": " := by
      rw [protect_append (show ']' ∉ (": " : Text) by decide), protect_append_plain hread]
    rw [stopLine, escape_eq_protect, escape_eq_protect, ← hprotected, ← error.protect_append_message hlast,
      complaintLine_protect]
  | crash crash => cases h

end CommandLine

end TemplateAudit
