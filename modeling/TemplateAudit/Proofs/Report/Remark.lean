import TemplateAudit.Proofs.Console.Tabs
import TemplateAudit.Proofs.Message.Placeholder
import TemplateAudit.Proofs.Report.Header

namespace TemplateAudit

open StyleTag

namespace Wording

theorem isSteady_of_mem_text_plain {wording : Wording} (h : wording.All (Console.isSteady · = true)) :
    ∀ c ∈ wording.text .plain, Console.isSteady c = true :=
  all_text h fun part hpart => (h.1 part hpart).2

/-- A text of steady parts is made of steady characters with its tags as well. -/
theorem isSteady_of_mem_text_tagged {wording : Wording} (h : wording.All (Console.isSteady · = true)) :
    ∀ c ∈ wording.text .tagged, Console.isSteady c = true := by
  have hname : ∀ role : SlotRole, ∀ c ∈ role.styleName, Console.isSteady c = true := by
    intro role
    cases role <;> exact List.all_eq_true.mp (by decide)
  refine all_text h fun part hpart => ?_
  have hescape : ∀ c ∈ escape part.2.value, Console.isSteady c = true := by
    intro c hc
    obtain hc | rfl := mem_escape hc
    · exact (h.1 part hpart).2 c hc
    · decide
  unfold SlotStyle.tagged
  simp only [List.forall_mem_append]
  exact ⟨⟨⟨⟨⟨⟨List.all_eq_true.mp (by decide), hname _⟩, List.all_eq_true.mp (by decide)⟩, hescape⟩,
    List.all_eq_true.mp (by decide)⟩, hname _⟩, List.all_eq_true.mp (by decide)⟩

end Wording

namespace LocatedDiagnostic

variable {diagnostic : LocatedDiagnostic} {source : Option Text} {location : Text}

/-- The place of a diagnostic goes to the console as protected text, and ends in a digit. -/
theorem exists_place (hlocation : diagnostic.location source = .ok location) :
    ∃ place, location = protect place ∧ place.getLast? ≠ some '\\' := by
  cases source with
  | some source =>
    obtain ⟨position, hposition, _⟩ := ok_of_bind hlocation
    rw [location_eq (ok_of_mapError hposition)] at hlocation
    exact ⟨_, (Except.ok.inj hlocation).symm, diagnostic.getLast?_place position⟩
  | none =>
    obtain rfl := Except.ok.inj hlocation
    have hmarks : ∀ mark : Char, mark.isDigit = false → mark ≠ '@' → mark ≠ '-' →
        mark ∉ ("@" : Text) ++ Text.ofInt diagnostic.start := by
      intro mark hdigit hat hminus
      cases diagnostic.start <;> simp [Text.ofInt, Text.not_mem_ofNat hdigit, hat, hminus]
    rw [List.append_assoc, escape_eq, ← protect_append (hmarks ']' (by decide) (by decide) (by decide))]
    exact ⟨_, rfl, getLast?_append_ne (List.append_ne_nil_of_left_ne_nil (by decide) _)
      (hmarks '\\' (by decide) (by decide) (by decide)) _⟩

/-- The console shows the place first, whatever follows it. -/
theorem visible_headerMarked {place : Text} (h : place.getLast? ≠ some '\\') (rule : Text)
    (wording : Wording) (last : Text) :
    visible (markup (headerMarked place rule wording) last) =
      shownText place ++ visible (markup (remarkMarked rule wording) last) := by
  have hnothing : visible (Piece.ofText []).written = [] := isKept_ofText_nil.visible
  have hplace : visible (Piece.safe place).written = shownText place := visible_protect place
  have hlead : ∀ body, shownLead 0 body = [] := fun _ => rfl
  rw [headerMarked, markup, visible_tagged (Piece.isSound_ofText []).end_not_slash isStyle_cyan.body,
    visible_tagged (Piece.getLast?_written_safe h) isStyle_cyan.isBody_closing, hnothing, hplace]
  show [] ++ shownLead 0 _ ++ (shownText place ++ shownLead 0 _ ++ _) = _
  rw [hlead, hlead, List.append_nil, List.append_nil, List.nil_append]

/-- What is shown of rule and message is steady if both are. -/
theorem isSteady_of_mem_remarkMarked {rule : Text} (hrule : ∀ c ∈ rule, Console.isSteady c = true)
    {wording : Wording} (hwording : wording.All (Console.isSteady · = true)) :
    ∀ c ∈ visible (markup (remarkMarked rule wording) (wording.after ' ').last), Console.isSteady c = true := by
  have hmarkup : ∀ c ∈ markup (remarkMarked rule wording) (wording.after ' ').last,
      Console.isSteady c = true := by
    rw [markup_remarkMarked]
    simp only [List.forall_mem_append]
    exact ⟨List.all_eq_true.mp (by decide), hrule, List.all_eq_true.mp (by decide),
      Wording.isSteady_of_mem_text_tagged hwording⟩
  intro c hc
  exact (mem_visible hc).1.elim (hmarkup c) Console.isSteady_of_isSign

/-- A header is shown as its place and what is meant behind it exactly if the console gives no meaning to that
    part. -/
theorem header_eq_ok_iff (hlocation : diagnostic.location source = .ok location) {wording : Wording}
    (hspelled : diagnostic.message.SpelledBy wording)
    (hrule : ∀ c ∈ diagnostic.rule, Console.isSteady c = true)
    (hwording : wording.All (Console.isSteady · = true)) :
    ∃ shown, Console.taggedLine location = .ok (shown ++ "\n") ∧
      (diagnostic.header source = .ok (shown ++ diagnostic.remark (wording.text .plain) ++ "\n") ↔
        keepsRule diagnostic.rule ∧ wording.IsKept) := by
  obtain ⟨place, rfl, hplace⟩ := exists_place hlocation
  have hremark : ∀ c ∈ diagnostic.remark (wording.text .plain), Console.isSteady c = true := by
    unfold remark
    simp only [List.forall_mem_append]
    exact ⟨⟨⟨List.all_eq_true.mp (by decide), hrule⟩, List.all_eq_true.mp (by decide)⟩,
      Wording.isSteady_of_mem_text_plain hwording⟩
  have hline : ∀ rest : Text, (∀ c ∈ rest, Console.isSteady c = true) →
      Console.verbatimLine (shownText place ++ rest) = Console.shownLine (shownText place) ++ rest ++ "\n" := by
    intro rest hrest
    rw [Console.verbatimLine, List.filter_append, Console.filter_isDropped_of_steady hrest,
      Console.expandTabs_append (Console.tab_not_mem_of_steady hrest)]
    rfl
  have hiff := shown_headerMarked_iff hplace diagnostic.rule wording
  rw [content_headerMarked] at hiff
  refine ⟨Console.shownLine (shownText place), ?_, ?_⟩
  · rw [Console.taggedLine, shown_protect]
    rfl
  have hheader : diagnostic.header source = (Console.taggedLine
      (markup (headerMarked place diagnostic.rule wording) (wording.after ' ').last)).mapError .styleTag := by
    rw [header, taggedHeader_eq hlocation hspelled]
    rfl
  rw [hheader, mapError_eq_ok_iff, Console.taggedLine, ← hiff]
  constructor
  · intro hshown
    obtain ⟨shown, hshown, hsame⟩ := ok_of_map hshown
    have hsteady := isSteady_of_mem_remarkMarked hrule hwording
    rw [eq_of_shown hshown, visible_headerMarked hplace, hline _ hsteady, List.append_left_inj,
      List.append_right_inj] at hsame
    rw [hshown, eq_of_shown hshown, visible_headerMarked hplace, hsame]
  · intro hshown
    rw [hshown, ← hline _ hremark]
    rfl

/-- A place can be told unless the diagnostic starts before the source. -/
theorem location_cases (diagnostic : LocatedDiagnostic) (source : Option Text) :
    (∃ location, diagnostic.location source = .ok location) ∨
      source ≠ none ∧ diagnostic.start < 0 ∧
        diagnostic.location source = .error (.offset ⟨diagnostic.start⟩) := by
  cases source with
  | none => exact .inl ⟨_, rfl⟩
  | some source =>
    by_cases hstart : diagnostic.start < 0
    · refine .inr ⟨Option.some_ne_none source, hstart, ?_⟩
      rw [location, LocatedDiagnostic.position, Source.position, Source.clamp, if_pos hstart]
      rfl
    · obtain ⟨position, hposition⟩ := exists_position (not_lt.mp hstart) source
      exact .inl ⟨_, location_eq hposition⟩

/-- A header is printed, with whatever excerpt there is behind it. -/
theorem print_of_header {header : Text} (hlocation : diagnostic.location source = .ok location)
    (hheader : diagnostic.header source = .ok header) (showSource : Bool) :
    ∃ excerpt, diagnostic.print source showSource = ⟨header ++ excerpt, none⟩ ∧
      (showSource = false → excerpt = []) := by
  cases source with
  | none => exact ⟨[], by rw [print, hheader, List.append_nil], fun _ => rfl⟩
  | some source =>
    obtain ⟨position, hposition, _⟩ := ok_of_bind hlocation
    exact print_eq (ok_of_mapError hposition) hheader showSource

theorem print_of_no_location {error : PrintError} (hlocation : diagnostic.location source = .error error)
    (showSource : Bool) : diagnostic.print source showSource = ⟨[], some error⟩ := by
  have hheader : diagnostic.header source = .error error := by
    rw [header, taggedHeader, hlocation]
    rfl
  rw [print, hheader]

/-- The entry of a diagnostic in a report has the message as rendered without styles. -/
theorem message_of_entry {entry : ReportEntry} (h : diagnostic.entry source = .ok entry) :
    diagnostic.message.render .plain = .ok entry.message := by
  unfold LocatedDiagnostic.entry at h
  -- With a source or without, the message comes second.
  cases source
  all_goals
    obtain ⟨position, _, h⟩ := ok_of_bind h
    obtain ⟨message, hmessage, h⟩ := ok_of_bind h
    obtain rfl := Except.ok.inj h
    exact ok_of_mapError hmessage

/-- A diagnostic of printable characters whose message has plain fields only and renders as a text. -/
structure IsReadable (diagnostic : LocatedDiagnostic) (message : Text) : Prop where
  plain : diagnostic.message.IsPlain
  rendered : diagnostic.message.render .plain = .ok message
  rule : ∀ c ∈ diagnostic.rule, isPrintable c = true
  template : ∀ c ∈ diagnostic.message.template, isPrintable c = true
  slots : ∀ slot ∈ diagnostic.message.slots, ∀ c ∈ slot.value, isPrintable c = true

/-- The console gives no meaning to the rule and to any part of the message. -/
def IsKept (diagnostic : LocatedDiagnostic) : Prop :=
  keepsRule diagnostic.rule ∧ diagnostic.message.wording.IsKept

/-- A header line that shows the place, whatever the console makes of that, then rule and message as they
    are. -/
def Says (diagnostic : LocatedDiagnostic) (source : Option Text) (message header : Text) : Prop :=
  ∃ location shown, diagnostic.location source = .ok location ∧
    Console.taggedLine location = .ok (shown ++ "\n") ∧ header = shown ++ diagnostic.remark message ++ "\n"

/-- The header of a readable diagnostic says its message exactly if the console gives no meaning to it. -/
theorem IsReadable.header_iff {message : Text} (h : diagnostic.IsReadable message)
    (hlocation : diagnostic.location source = .ok location) :
    ∃ shown, Console.taggedLine location = .ok (shown ++ "\n") ∧
      (diagnostic.header source = .ok (shown ++ diagnostic.remark message ++ "\n") ↔ diagnostic.IsKept) := by
  have hspelled := diagnostic.message.spelledBy_wording h.plain h.rendered
  have hwording : diagnostic.message.wording.All (Console.isSteady · = true) :=
    Message.all_wording (fun c hc => Console.isSteady_of_isPrintable (h.template c hc))
      fun slot hslot c hc => Console.isSteady_of_isPrintable (h.slots slot hslot c hc)
  obtain rfl : diagnostic.message.wording.text .plain = message :=
    Except.ok.inj ((hspelled .plain).symm.trans h.rendered)
  exact header_eq_ok_iff hlocation hspelled
    (fun c hc => Console.isSteady_of_isPrintable (h.rule c hc)) hwording

end LocatedDiagnostic

/-- A header says the message that the report has for the diagnostic exactly if the console gives no meaning to
    the rule and to any part of the message. If that is so for all diagnostics, printing them never fails for
    what a message says: all of them are printed so, or all before the first that starts before the
    source. -/
theorem printDiagnostics_says_messages (source : Option Text) (showSource : Bool)
    {diagnostics : List LocatedDiagnostic} (h : ∀ diagnostic ∈ diagnostics, ∃ message, diagnostic.IsReadable message) :
    (∀ diagnostic ∈ diagnostics, ∃ message, diagnostic.message.render .plain = .ok message ∧
      (∀ entry, diagnostic.entry source = .ok entry → entry.message = message) ∧
      ∀ location, diagnostic.location source = .ok location →
        ∃ shown, Console.taggedLine location = .ok (shown ++ "\n") ∧
          (diagnostic.header source = .ok (shown ++ diagnostic.remark message ++ "\n") ↔ diagnostic.IsKept)) ∧
      ((∀ diagnostic ∈ diagnostics, diagnostic.IsKept) →
        ∃ done rest texts error, diagnostics = done ++ rest ∧
          List.Forall₂ (fun diagnostic text => ∃ message header excerpt,
            diagnostic.message.render .plain = .ok message ∧ diagnostic.Says source message header ∧
              text = header ++ excerpt ∧ (showSource = false → excerpt = [])) done texts ∧
          printDiagnostics source showSource diagnostics = ⟨texts.flatten, error⟩ ∧
          (rest = [] ∧ error = none ∨ ∃ diagnostic later cause, rest = diagnostic :: later ∧ error = some cause ∧
            source ≠ none ∧ diagnostic.start < 0 ∧ cause = .offset ⟨diagnostic.start⟩)) := by
  refine ⟨fun diagnostic hdiagnostic => ?_, fun hkept =>
    printDiagnostics_of_printed_or_stopped fun diagnostic hdiagnostic => ?_⟩
  · obtain ⟨message, hreadable⟩ := h diagnostic hdiagnostic
    refine ⟨message, hreadable.rendered, fun entry hentry => ?_, fun location hlocation =>
      hreadable.header_iff hlocation⟩
    exact Except.ok.inj ((LocatedDiagnostic.message_of_entry hentry).symm.trans hreadable.rendered)
  · obtain ⟨message, hreadable⟩ := h diagnostic hdiagnostic
    obtain ⟨location, hlocation⟩ | ⟨hsource, hstart, hlocation⟩ := diagnostic.location_cases source
    · obtain ⟨shown, hshown, hiff⟩ := hreadable.header_iff hlocation
      obtain ⟨excerpt, hprint, hexcerpt⟩ := LocatedDiagnostic.print_of_header hlocation
        (hiff.mpr (hkept diagnostic hdiagnostic)) showSource
      exact .inl ⟨_, hprint, message, _, excerpt, hreadable.rendered, ⟨location, shown, hlocation, hshown, rfl⟩,
        rfl, hexcerpt⟩
    · exact .inr ⟨_, LocatedDiagnostic.print_of_no_location hlocation showSource, hsource, hstart, rfl⟩

/-- Brackets and tags in the values of slots are shown as they are. -/
theorem printDiagnostics_says_messages_bracketed :
    let message : Message :=
      ⟨"Use {new} instead of {old}.", [⟨"old", "[/red]", .old⟩, ⟨"new", "[value]", .new⟩]⟩
    let diagnostic : LocatedDiagnostic := ⟨"no-red", 2, 5, message, some "a.html"⟩
    diagnostic.IsReadable "Use [value] instead of [/red]." ∧ diagnostic.IsKept ∧
      printDiagnostics none false [diagnostic] =
        ⟨"a.html@2: [no-red] Use [value] instead of [/red].\n", none⟩ := by
  intro message diagnostic
  have hpieces : Template.pieces message.template =
      [TemplatePart.chunk "Use ", .reference "new", .chunk " instead of ", .reference "old", .chunk "."].flatMap
        TemplatePart.pieces := by
    decide +kernel
  have hplain : message.IsPlain := by
    intro field hfield
    rw [hpieces] at hfield
    obtain rfl | rfl : field = ⟨"new", none, []⟩ ∨ field = ⟨"old", none, []⟩ := by
      simpa [TemplatePart.pieces] using hfield
    all_goals exact ⟨rfl, rfl, by decide, by decide⟩
  have hreadable : diagnostic.IsReadable "Use [value] instead of [/red]." :=
    { plain := hplain
      rendered := by decide +kernel
      rule := List.all_eq_true.mp (by decide +kernel)
      template := List.all_eq_true.mp (by decide +kernel)
      slots := by
        simp only [diagnostic, message, List.forall_mem_cons]
        exact ⟨List.all_eq_true.mp (by decide +kernel), List.all_eq_true.mp (by decide +kernel),
          List.forall_mem_nil _⟩ }
  have hwording : message.wording =
      ⟨[("Use ", ⟨"new", "[value]", .new⟩), (" instead of ", ⟨"old", "[/red]", .old⟩)], "."⟩ := by
    rw [Message.wording, hpieces]
    rfl
  have hkept : diagnostic.IsKept := by
    refine ⟨keepsRule_of_isRuleName (by decide +kernel), Wording.isKept_of_isInert ?_⟩
    show message.wording.isInert = true
    rw [hwording]
    decide +kernel
  refine ⟨hreadable, hkept, ?_⟩
  have hall : ∀ diagnostic' ∈ [diagnostic], ∃ message, diagnostic'.IsReadable message :=
    List.forall_mem_singleton.mpr ⟨_, hreadable⟩
  obtain ⟨done, rest, texts, error, hsplit, htexts, hprint, hend⟩ :=
    (printDiagnostics_says_messages none false hall).2 (List.forall_mem_singleton.mpr hkept)
  obtain ⟨rfl, rfl⟩ | ⟨_, _, _, _, _, hsource, _⟩ := hend
  · rw [List.append_nil] at hsplit
    subst hsplit
    obtain ⟨text, others, ⟨rendered, header, excerpt, hrendered, hsays, rfl, hexcerpt⟩, hothers, rfl⟩ :=
      List.forall₂_cons_left_iff.mp htexts
    obtain rfl := List.forall₂_nil_left_iff.mp hothers
    obtain rfl := hexcerpt rfl
    obtain rfl := Except.ok.inj (hrendered.symm.trans hreadable.rendered)
    obtain ⟨location, shown, hlocation, hshown, rfl⟩ := hsays
    have hplace : diagnostic.location none = .ok "a.html@2" := by decide +kernel
    obtain rfl := Except.ok.inj (hlocation.symm.trans hplace)
    rw [taggedLine_of_isInert (List.all_eq_true.mp (by decide +kernel)) (by decide)] at hshown
    obtain rfl := List.append_cancel_right (Except.ok.inj hshown)
    rw [hprint]
    decide +kernel
  · exact absurd rfl hsource

/-- Words in brackets are taken for a style if they stand in the text itself. -/
theorem printDiagnostics_drops_bracketed :
    let diagnostic : LocatedDiagnostic := ⟨"r", 0, 14, ⟨"Use [value] instead.", []⟩, none⟩
    diagnostic.IsReadable "Use [value] instead." ∧
      printDiagnostics none false [diagnostic] ≠ ⟨"<template>@0: [r] Use [value] instead.\n", none⟩ := by
  intro diagnostic
  have hpieces : Template.pieces diagnostic.message.template =
      ("Use [value] instead." : Text).map .literal := by
    decide +kernel
  have hreadable : diagnostic.IsReadable "Use [value] instead." :=
    { plain := by
        intro field hfield
        rw [hpieces] at hfield
        simp at hfield
      rendered := by decide +kernel
      rule := List.all_eq_true.mp (by decide +kernel)
      template := List.all_eq_true.mp (by decide +kernel)
      slots := List.forall_mem_nil _ }
  have hwording : diagnostic.message.wording = ⟨[], "Use [value] instead."⟩ := by
    rw [Message.wording, hpieces]
    rfl
  have hlost : ¬ diagnostic.IsKept := by
    rintro ⟨_, hkept⟩
    have hlast := hkept.last
    rw [hwording] at hlast
    exact absurd (eq_of_shown hlast) (by decide +kernel)
  have hplace : diagnostic.location none = .ok "<template>@0" := by decide +kernel
  obtain ⟨shown, hshown, hiff⟩ := hreadable.header_iff hplace
  rw [taggedLine_of_isInert (List.all_eq_true.mp (by decide +kernel)) (by decide)] at hshown
  obtain rfl := List.append_cancel_right (Except.ok.inj hshown)
  refine ⟨hreadable, fun hprint => hlost (hiff.mp ?_)⟩
  rw [printDiagnostics, LocatedDiagnostic.print] at hprint
  cases hheader : diagnostic.header none with
  | error error =>
    rw [hheader] at hprint
    cases hprint
  | ok header =>
    rw [hheader] at hprint
    have houtput : header ++ [] = _ := congrArg Printed.output hprint
    rw [List.append_nil] at houtput
    rw [houtput]
    decide +kernel

end TemplateAudit
