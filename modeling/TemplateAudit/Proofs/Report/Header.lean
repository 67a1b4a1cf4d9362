import Mathlib
import TemplateAudit.Proofs.Diagnostic.Builtin
import TemplateAudit.Proofs.Report.Kept

namespace TemplateAudit

open StyleTag

namespace LocatedDiagnostic

/-- The name under which a diagnostic is printed. -/
def shownPath (diagnostic : LocatedDiagnostic) : Text :=
  match diagnostic.path with
  | some (c :: path) => c :: path
  | _ => "<template>"

/-- The name, line and column of a diagnostic as they are handed to the console. -/
def place (diagnostic : LocatedDiagnostic) (position : Position) : Text :=
  diagnostic.shownPath ++ (if endsInLoneBackslash diagnostic.shownPath then ['\\'] else [])
    ++ ":" ++ Text.ofNat position.line ++ ":" ++ Text.ofNat position.column

/-- The rest of a header, behind the place. -/
def remark (diagnostic : LocatedDiagnostic) (message : Text) : Text :=
  ": [" ++ diagnostic.rule ++ "] " ++ message

end LocatedDiagnostic

/-- A name that can stand in brackets and is taken for a tag there if nothing protects it. -/
def isRuleName (name : Text) : Bool :=
  name.head?.any startsTag && name.all fun c => Console.isInert c && c != '[' && c != ']'

/-- The built-in rules have names that can stand in brackets. -/
theorem Rule.isRuleName_builtin : ∀ rule ∈ Rule.builtin, isRuleName rule.name = true := by
  simp only [Rule.builtin, List.forall_mem_cons]
  decide +kernel

/-- A rule whose name the console shows in brackets. -/
def keepsRule (rule : Text) : Prop := StyleTag.shown ("\\[" ++ rule ++ "]") = .ok ("[" ++ rule ++ "]")

section RuleName

variable {name : Text} (h : isRuleName name = true)

include h

/-- A rule name in brackets would be taken for a tag. -/
theorem isBody_of_isRuleName : IsBody name := by
  simp only [isRuleName, Bool.and_eq_true, List.all_eq_true, bne_iff_ne, ne_eq] at h
  obtain ⟨hstart, hall⟩ := h
  refine ⟨?_, fun hmem => (hall _ hmem).1.2 rfl, fun hmem => (hall _ hmem).2 rfl⟩
  cases hhead : name.head? with
  | none =>
    rw [hhead] at hstart
    cases hstart
  | some c =>
    rw [hhead] at hstart
    exact ⟨c, rfl, hstart⟩

theorem isInert_bracketed : ∀ c ∈ '[' :: (name ++ [']']), Console.isInert c = true := by
  simp only [isRuleName, Bool.and_eq_true, List.all_eq_true] at h
  intro c hc
  simp only [List.mem_cons, List.mem_append, List.not_mem_nil, or_false] at hc
  obtain rfl | hc | rfl := hc
  · decide
  · exact (h.2 c hc).1.1
  · decide

theorem protect_bracketed : protect ('[' :: (name ++ [']'])) = '\\' :: '[' :: (name ++ [']']) := by
  have hlead : lead? ('[' :: (name ++ [']'])) = some (0, name, []) := lead?_tag (isBody_of_isRuleName h) 0 []
  rw [protect_of_lead? hlead, protect_nil]
  rfl

/-- The console shows a rule name in brackets if the first of them is made safe. -/
theorem keepsRule_of_isRuleName : keepsRule name := by
  have hshown := shown_protect ('[' :: (name ++ [']']))
  rw [protect_bracketed h, shownText_of_isInert (isInert_bracketed h)] at hshown
  exact hshown

end RuleName

/-- The separator behind the place is shown as it is. -/
theorem isKept_separator : (Piece.ofText ": ").IsKept := by
  have hprotect : protect ": " = ": " := protect_of_no_bracket (by decide)
  have hshownText : shownText ": " = ": " := by
    refine shownText_eq_self (by decide) (fun code hcode => ?_) (List.all_eq_true.mp (by decide))
    have hcount := hcode.sublist.count_le ':'
    simp at hcount
  have hshown := shown_protect ": "
  rw [hprotect, hshownText] at hshown
  exact (Piece.isKept_ofText_iff ": ").mpr ⟨hshown, by decide⟩

/-- The rule in brackets, the first of them made safe. -/
def rulePiece (rule : Text) : Piece := ⟨"\\[" ++ rule ++ "]", "[" ++ rule ++ "]", 0, 0⟩

theorem isSound_rulePiece (rule : Text) : (rulePiece rule).IsSound where
  end_not_slash := getLast?_append_ne (by decide) (by decide) _
  within := within_backslash_open (rule ++ [']'])
  slashes := .inl rfl

theorem isKept_rulePiece_iff {rule : Text} : (rulePiece rule).IsKept ↔ keepsRule rule :=
  Iff.trans ⟨fun h => ⟨h.tagless, h.visible⟩, fun h => ⟨rfl, h.1, h.2⟩⟩
    (isSound_rulePiece rule).within.shown_iff.symm

/-- What follows the place in a header. -/
def remarkMarked (rule : Text) (wording : Wording) : List Marked :=
  ⟨.ofText ": ", "dim", rulePiece rule⟩ :: (wording.after ' ').marked

/-- A header as a text with styles. -/
def headerMarked (place rule : Text) (wording : Wording) : List Marked :=
  ⟨.ofText [], "cyan", .safe place⟩ :: remarkMarked rule wording

/-- All parts of a header are sound if its place ends in no backslash. -/
theorem isSound_of_mem_headerMarked {place : Text} (h : place.getLast? ≠ some '\\') (rule : Text)
    (wording : Wording) : ∀ marked ∈ headerMarked place rule wording, marked.IsSound := by
  have hcyan : Console.weightOf "[/cyan]" < 10 := by decide
  have hdim : Console.weightOf "[/dim]" < 10 := by decide
  simp only [headerMarked, remarkMarked, List.forall_mem_cons]
  exact ⟨⟨isStyle_cyan, hcyan, Piece.isSound_ofText [], Piece.isSound_safe h⟩,
    ⟨isStyle_dim, hdim, Piece.isSound_ofText ": ", isSound_rulePiece rule⟩,
    Wording.isSound_of_mem_marked _⟩

/-- A header is shown as it is meant behind its place exactly if its rule and its message are kept. -/
theorem shown_headerMarked_iff {place : Text} (h : place.getLast? ≠ some '\\') (rule : Text)
    (wording : Wording) :
    StyleTag.shown (markup (headerMarked place rule wording) (wording.after ' ').last) =
        .ok (content (headerMarked place rule wording) (wording.after ' ').last) ↔
      keepsRule rule ∧ wording.IsKept := by
  rw [shown_markup_iff (isSound_of_mem_headerMarked h rule wording) (within_self _),
    ← Wording.isKept_after_blank_iff, Wording.isKept_iff, ← isKept_rulePiece_iff]
  simp only [headerMarked, remarkMarked, List.forall_mem_cons, Marked.IsKept, isKept_ofText_nil,
    Piece.isKept_safe, isKept_separator, true_and, and_assoc]

/-- The rest of a header is written as a text with styles. -/
theorem markup_remarkMarked (rule : Text) (wording : Wording) :
    markup (remarkMarked rule wording) (wording.after ' ').last =
      ": [dim]\\[" ++ (rule ++ ("][/dim] " ++ wording.text .tagged)) := by
  have hrule : (rulePiece rule).slashes = 0 := rfl
  rw [remarkMarked, markup, tagged_ofText, tagged_of_no_slashes hrule, Wording.markup_marked,
    Wording.text_after]
  simp only [rulePiece, List.append_assoc]
  rfl

namespace LocatedDiagnostic

section Marked

variable {diagnostic : LocatedDiagnostic} {source : Option Text} {place : Text} {wording : Wording}

/-- A header goes to the console as its place, the separator, the rule, and the message, each in its style. -/
theorem taggedHeader_eq (hlocation : diagnostic.location source = .ok (protect place))
    (hspelled : diagnostic.message.SpelledBy wording) :
    diagnostic.taggedHeader source =
      .ok (markup (headerMarked place diagnostic.rule wording) (wording.after ' ').last) := by
  have hplace : (Piece.safe place).slashes = 0 := rfl
  rw [headerMarked, markup, tagged_ofText, tagged_of_no_slashes hplace, markup_remarkMarked]
  simp only [taggedHeader, hlocation, hspelled .tagged, bind, Except.bind, pure, Except.pure, Except.mapError,
    List.append_assoc]
  rfl

/-- A header means what is shown of its place, then rule and message. -/
theorem content_headerMarked (place : Text) (wording : Wording) :
    content (headerMarked place diagnostic.rule wording) (wording.after ' ').last =
      shownText place ++ diagnostic.remark (wording.text .plain) := by
  have hrule : (rulePiece diagnostic.rule).content = "[" ++ diagnostic.rule ++ "]" := List.append_nil _
  unfold remark
  rw [headerMarked, remarkMarked, content, content, Piece.content_ofText, Piece.content_ofText,
    Piece.content_safe, hrule, Wording.content_marked, Wording.text_after, List.append_assoc,
    List.append_assoc, List.append_assoc]
  rfl

end Marked

variable {diagnostic : LocatedDiagnostic} {source : Text} {position : Position} {wording : Wording}

/-- The location is the protected place of the diagnostic. -/
theorem location_eq (hposition : diagnostic.position source = .ok position) :
    diagnostic.location (some source) = .ok (protect (diagnostic.place position)) := by
  have hclose : ']' ∉ ":" ++ Text.ofNat position.line ++ ":" ++ Text.ofNat position.column := by
    simp [Text.not_mem_ofNat (show (']').isDigit = false from rfl)]
  have hplace : diagnostic.place position = (diagnostic.shownPath
      ++ (if endsInLoneBackslash diagnostic.shownPath then ['\\'] else []))
        ++ (":" ++ Text.ofNat position.line ++ ":" ++ Text.ofNat position.column) := by
    simp [place]
  rw [hplace, protect_append hclose, ← escape_eq]
  simp only [location, hposition, Except.mapError, bind, Except.bind, pure, Except.pure, List.append_assoc]
  rfl

theorem getLast?_place (diagnostic : LocatedDiagnostic) (position : Position) :
    (diagnostic.place position).getLast? ≠ some '\\' :=
  getLast?_append_ne (Text.ofNat_ne_nil position.column) (Text.not_mem_ofNat (by decide) position.column) _

/-- Whatever the path, a header can be printed, and only its place may look different on the console. -/
theorem header_eq (hposition : diagnostic.position source = .ok position)
    (hrule : isRuleName diagnostic.rule = true) (hmessage : diagnostic.message.SpelledBy wording)
    (hinert : wording.isInert = true) :
    diagnostic.header (some source) = .ok (Console.verbatimLine
      (shownText (diagnostic.place position) ++ diagnostic.remark (wording.text .plain))) := by
  have hshown := (shown_headerMarked_iff (diagnostic.getLast?_place position) _ _).mpr
    ⟨keepsRule_of_isRuleName hrule, Wording.isKept_of_isInert hinert⟩
  rw [content_headerMarked] at hshown
  rw [header, taggedHeader_eq (location_eq hposition) hmessage]
  simp only [Console.taggedLine, hshown, bind, Except.bind, Except.map, Except.mapError]

/-- An underline is a text with a style. -/
theorem taggedUnderline_eq (column width : Nat) :
    taggedUnderline column width =
      styledText [⟨"    " ++ Text.repeated (column - 1) ' ', "red", Text.repeated width '^'⟩] [] := by
  have hspaces : protect ("    " ++ Text.repeated (column - 1) ' ') =
      "    " ++ Text.repeated (column - 1) ' ' :=
    protect_of_no_bracket (by simp [Text.repeated])
  have hcarets : protect (Text.repeated width '^') = Text.repeated width '^' :=
    protect_of_no_bracket (by simp [Text.repeated])
  -- Its equation takes long to state, because that evaluates the texts in it.
  delta taggedUnderline
  simp only [styledText, hspaces, hcarets, protect_nil, List.append_assoc, List.cons_append]
  rfl

/-- On the console the underline is spaces and carets. -/
theorem taggedLine_taggedUnderline (column width : Nat) :
    Console.taggedLine (taggedUnderline column width) =
      .ok (Text.repeated (4 + (column - 1)) ' ' ++ Text.repeated width '^' ++ "\n") := by
  have hspaces : ("    " : Text) ++ Text.repeated (column - 1) ' ' = Text.repeated (4 + (column - 1)) ' ' := by
    rw [Text.repeated, Text.repeated, ← List.replicate_append_replicate]
    rfl
  have hinert : ∀ mark : Char, Console.isInert mark = true →
      ∀ count, ∀ c ∈ Text.repeated count mark, Console.isInert c = true :=
    fun mark hmark count c hc => List.eq_of_mem_replicate hc ▸ hmark
  have hblank := hinert ' ' (by decide) (4 + (column - 1))
  have hcarets := hinert '^' (by decide) width
  have hsound : ∀ span ∈ [(⟨Text.repeated (4 + (column - 1)) ' ', "red", Text.repeated width '^'⟩ : Span)],
      span.IsSound :=
    List.forall_mem_singleton.mpr ⟨isStyle_red, getLast?_of_isInert hblank, getLast?_of_isInert hcarets⟩
  have hnothing : shownText [] = [] := by rw [shownText, cuts_nil, List.flatMap_nil]
  rw [taggedUnderline_eq, hspaces, Console.taggedLine, shown_styledText hsound]
  simp only [shownSpans, shownText_of_isInert hblank, shownText_of_isInert hcarets, hnothing,
    List.append_nil, Except.map]
  rw [Console.verbatimLine_of_steady (isSteady_of_isInert (List.forall_mem_append.mpr ⟨hblank, hcarets⟩))]

/-- An excerpt can be printed whenever the diagnostic has a position. -/
theorem exists_excerpt (hposition : diagnostic.position source = .ok position) :
    ∃ line, Source.line source diagnostic.start = .ok line ∧
      diagnostic.excerpt source = .ok (excerptLine line ++ (Text.repeated (4 + (position.column - 1)) ' '
        ++ Text.repeated (diagnostic.underlineWidth line position.column).toNat '^' ++ "\n")) := by
  cases hclamp : Source.clamp source diagnostic.start with
  | error error =>
    rw [LocatedDiagnostic.position, Source.position, hclamp] at hposition
    cases hposition
  | ok offset =>
    have hline : Source.line source diagnostic.start = .ok (Source.lineAt source offset) := by
      rw [Source.line, hclamp]
      rfl
    refine ⟨_, hline, ?_⟩
    simp only [excerpt, hline, hposition, taggedLine_taggedUnderline, bind, Except.bind, Except.mapError, pure,
      Except.pure]

end LocatedDiagnostic

/-- No backslash and bracket come together where text without brackets is put behind. -/
theorem not_infix_append {text rest : Text} (htext : ¬ ['\\', '['] <:+: text) (hrest : '[' ∉ rest) :
    ¬ ['\\', '['] <:+: text ++ rest := by
  rintro ⟨before, after, hsplit⟩
  rw [List.append_assoc] at hsplit
  obtain ⟨between, rfl, hlater⟩ | ⟨between, _, hlater⟩ := List.append_eq_append_iff.mp hsplit
  · match between, hlater with
    | [], hlater =>
      rw [List.nil_append] at hlater
      exact hrest (hlater ▸ by simp)
    | [c], hlater =>
      simp only [List.cons_append, List.nil_append, List.cons.injEq] at hlater
      exact hrest (hlater.2 ▸ List.mem_cons_self)
    | c :: d :: between, hlater =>
      simp only [List.cons_append, List.cons.injEq] at hlater
      obtain ⟨rfl, rfl, _⟩ := hlater
      exact htext ⟨before, between, by simp⟩
  · exact hrest (hlater ▸ by simp)

/-- Without colons in the path, the only thing that may be taken for an emoji code is the number of the
    line. -/
theorem shownText_numbered {path : Text} (hslash : ¬ ['\\', '['] <:+: path) (hcolon : ':' ∉ path)
    (hsteady : ∀ c ∈ path, Console.isSteady c = true) (line column : Nat) :
    shownText (path ++ (':' :: (Text.ofNat line ++ ':' :: Text.ofNat column))) =
      path ++ ((Emoji.ofCode? (Text.ofNat line)).getD (':' :: (Text.ofNat line ++ [':']))
        ++ Text.ofNat column) := by
  have hmarks : ∀ mark : Char, mark.isDigit = false → mark ≠ ':' →
      mark ∉ ':' :: (Text.ofNat line ++ ':' :: Text.ofNat column) := by
    intro mark hdigit hne
    simp [hne, Text.not_mem_ofNat hdigit]
  have hnumbers : ∀ c ∈ ':' :: (Text.ofNat line ++ ':' :: Text.ofNat column), Console.isSteady c = true := by
    intro c hc
    simp only [List.mem_cons, List.mem_append] at hc
    obtain rfl | hc | rfl | hc := hc
    · decide
    · exact Console.isSteady_of_mem_ofNat hc
    · decide
    · exact Console.isSteady_of_mem_ofNat hc
  obtain ⟨pieces, piece, hcuts, htext⟩ := cuts_append (hmarks ']' (by decide) (by decide))
    (List.cons_ne_nil _ _) path
  have hpieces : ∀ token ∈ pieces, shownPiece token.text = token.text := by
    intro token htoken
    have hwithin : token.text <:+: path := by
      obtain ⟨before, after, rfl⟩ := List.append_of_mem htoken
      exact ⟨before.flatMap Token.text, after.flatMap Token.text ++ piece, by simp [← htext]⟩
    rw [shownPiece_eq (fun hpair => hslash (hpair.trans hwithin)) fun c hc => hsteady c (hwithin.subset hc)]
    exact Emoji.replaceCodes_of_notMem fun hmem => hcolon (hwithin.subset hmem)
  have hpiece : piece <:+ path := ⟨_, htext⟩
  have hcode : ∀ c ∈ Text.ofNat line, Emoji.inCode c = true :=
    fun c hc => Emoji.inCode_of_isDigit (Text.isDigit_of_mem_ofNat hc)
  have hlast : shownPiece (piece ++ (':' :: (Text.ofNat line ++ ':' :: Text.ofNat column))) =
      piece ++ ((Emoji.ofCode? (Text.ofNat line)).getD (':' :: (Text.ofNat line ++ [':']))
        ++ Text.ofNat column) := by
    rw [shownPiece_eq, Emoji.replaceCodes_append_of_notMem fun hmem => hcolon (hpiece.mem hmem),
      Emoji.replaceCodes_of_closed hcode, Emoji.replaceCodes_of_notMem (Text.not_mem_ofNat (by decide) column)]
    · exact not_infix_append (fun hpair => hslash (hpair.trans hpiece.isInfix))
        (hmarks '[' (by decide) (by decide))
    · exact List.forall_mem_append.mpr ⟨fun c hc => hsteady c (hpiece.mem hc), hnumbers⟩
  rw [shownText, hcuts, List.flatMap_append, List.flatMap_def, List.map_congr_left hpieces,
    ← List.flatMap_def, List.flatMap_singleton, Token.text, hlast, ← List.append_assoc, htext]

namespace LocatedDiagnostic

variable {diagnostic : LocatedDiagnostic} {source : Text}

/-- A diagnostic that does not start before the text has a position. -/
theorem exists_position (hstart : 0 ≤ diagnostic.start) (source : Text) :
    ∃ position, diagnostic.position source = .ok position := by
  rw [LocatedDiagnostic.position, Source.position, Source.clamp, if_neg (by omega)]
  exact ⟨_, rfl⟩

/-- A diagnostic of a built-in rule can be printed under any path. -/
theorem exists_header {rule : Rule} (hrule : rule ∈ Rule.builtin) (hname : diagnostic.rule = rule.name)
    (hmessage : diagnostic.message = rule.message) (hstart : 0 ≤ diagnostic.start) (source : Text) :
    ∃ position message, diagnostic.position source = .ok position ∧
      diagnostic.message.render .plain = .ok message ∧ (∀ c ∈ message, Console.isInert c = true) ∧
      diagnostic.header (some source) = .ok (Console.verbatimLine
        (shownText (diagnostic.place position) ++ diagnostic.remark message)) := by
  obtain ⟨position, hposition⟩ := exists_position hstart source
  obtain ⟨wording, hspelled, hinert⟩ := Rule.builtin_spelled rule hrule
  have hruleName := Rule.isRuleName_builtin rule hrule
  rw [← hname] at hruleName
  rw [← hmessage] at hspelled
  exact ⟨position, wording.text .plain, hposition, hspelled .plain, Wording.isInert_of_mem_text hinert,
    header_eq hposition hruleName hspelled hinert⟩

theorem print_of_excerpt {header excerpt : Text} (hheader : diagnostic.header (some source) = .ok header)
    (hexcerpt : diagnostic.excerpt source = .ok excerpt) :
    diagnostic.print (some source) true = ⟨header ++ excerpt, none⟩ := by
  rw [print, hheader]
  simp only [if_true, hexcerpt]

/-- The header comes first, and an excerpt follows on demand. -/
theorem print_eq {header : Text} {position : Position} (hposition : diagnostic.position source = .ok position)
    (hheader : diagnostic.header (some source) = .ok header) (showSource : Bool) :
    ∃ excerpt, diagnostic.print (some source) showSource = ⟨header ++ excerpt, none⟩ ∧
      (showSource = false → excerpt = []) := by
  obtain ⟨line, _, hexcerpt⟩ := exists_excerpt hposition
  cases showSource with
  | true => exact ⟨_, print_of_excerpt hheader hexcerpt, by simp⟩
  | false => exact ⟨[], by simp [print, hheader], fun _ => rfl⟩

end LocatedDiagnostic

/-- Diagnostics are printed one after another, up to the first that cannot be printed at all. -/
theorem printDiagnostics_of_printed_or_stopped {source : Option Text} {showSource : Bool}
    {printed : LocatedDiagnostic → Text → Prop} {stopped : LocatedDiagnostic → PrintError → Prop}
    {diagnostics : List LocatedDiagnostic}
    (h : ∀ diagnostic ∈ diagnostics,
      (∃ text, diagnostic.print source showSource = ⟨text, none⟩ ∧ printed diagnostic text) ∨
        ∃ error, diagnostic.print source showSource = ⟨[], some error⟩ ∧ stopped diagnostic error) :
    ∃ done rest texts error, diagnostics = done ++ rest ∧ List.Forall₂ printed done texts ∧
      printDiagnostics source showSource diagnostics = ⟨texts.flatten, error⟩ ∧
      (rest = [] ∧ error = none ∨
        ∃ diagnostic later cause, rest = diagnostic :: later ∧ error = some cause ∧ stopped diagnostic cause) := by
  induction diagnostics with
  | nil => exact ⟨[], [], [], none, rfl, .nil, rfl, .inl ⟨rfl, rfl⟩⟩
  | cons diagnostic rest ih =>
    obtain ⟨hfirst, hrest⟩ := List.forall_mem_cons.mp h
    obtain ⟨text, hprint, hprinted⟩ | ⟨error, hprint, hstopped⟩ := hfirst
    · obtain ⟨done, later, texts, error, rfl, hdone, hlater, hend⟩ := ih hrest
      refine ⟨diagnostic :: done, later, text :: texts, error, rfl, .cons hprinted hdone, ?_, hend⟩
      rw [printDiagnostics, hprint]
      simp [hlater]
    · refine ⟨[], diagnostic :: rest, [], some error, rfl, .nil, ?_, .inr ⟨_, _, _, rfl, rfl, hstopped⟩⟩
      rw [printDiagnostics, hprint]
      rfl

/-- Diagnostics that can all be printed are printed one after another. -/
theorem printDiagnostics_of_printed {source : Option Text} {showSource : Bool}
    {printed : LocatedDiagnostic → Text → Prop} {diagnostics : List LocatedDiagnostic}
    (h : ∀ diagnostic ∈ diagnostics, ∃ text, diagnostic.print source showSource = ⟨text, none⟩ ∧
      printed diagnostic text) :
    ∃ texts, List.Forall₂ printed diagnostics texts ∧
      printDiagnostics source showSource diagnostics = ⟨texts.flatten, none⟩ := by
  have hall : ∀ diagnostic ∈ diagnostics,
      (∃ text, diagnostic.print source showSource = ⟨text, none⟩ ∧ printed diagnostic text) ∨
        ∃ error, diagnostic.print source showSource = ⟨[], some error⟩ ∧ False :=
    fun diagnostic hmem => .inl (h diagnostic hmem)
  obtain ⟨done, rest, texts, error, rfl, hdone, hprint, ⟨rfl, rfl⟩ | ⟨_, _, _, _, _, hnever⟩⟩ :=
    printDiagnostics_of_printed_or_stopped hall
  · exact ⟨texts, by rwa [List.append_nil], hprint⟩
  · exact hnever.elim

/-- The header line of a diagnostic as it is meant to look. -/
def LocatedDiagnostic.intendedHeader (diagnostic : LocatedDiagnostic) (path : Text) (position : Position)
    (message : Text) : Text :=
  path ++ ":" ++ Text.ofNat position.line ++ ":" ++ Text.ofNat position.column ++ ": [" ++ diagnostic.rule
    ++ "] " ++ message ++ "\n"

/-- A path in which a console changes no backslash. -/
structure KeepsBackslashes (path : Text) : Prop where
  end_not_lone : endsInLoneBackslash path = false
  no_pair : ¬ ['\\', '['] <:+: path

instance (path : Text) : Decidable (KeepsBackslashes path) :=
  decidable_of_iff (endsInLoneBackslash path = false ∧ ¬ ['\\', '['] <:+: path)
    ⟨fun h => ⟨h.1, h.2⟩, fun h => ⟨h.1, h.2⟩⟩

/-- The header line of a diagnostic with a path: what a console shows of its place, then rule and message.
    If the console changes no backslash of the path, the line looks as it is meant to unless it has an
    emoji code, and for a path without colons exactly unless the number of the line is one. -/
def LocatedDiagnostic.HasHeader (diagnostic : LocatedDiagnostic) (source path header : Text) : Prop :=
  ∃ position message, diagnostic.position source = .ok position ∧
    diagnostic.message.render .plain = .ok message ∧
    header = shownText (diagnostic.place position) ++ diagnostic.remark message ++ "\n" ∧
    (path ≠ [] → KeepsBackslashes path →
      (Emoji.CodeFree (diagnostic.place position) →
        header = diagnostic.intendedHeader path position message) ∧
      (':' ∉ path → (header = diagnostic.intendedHeader path position message ↔
        position.line ≠ 100 ∧ position.line ≠ 1234)))

namespace LocatedDiagnostic

variable {diagnostic : LocatedDiagnostic} {path : Text}

theorem shownPath_of_path (hpath : diagnostic.path = some path) (hne : path ≠ []) :
    diagnostic.shownPath = path := by
  obtain ⟨c, rest, rfl⟩ := List.exists_cons_of_ne_nil hne
  rw [shownPath, hpath]

theorem place_of_keepsBackslashes (hpath : diagnostic.path = some path) (hne : path ≠ [])
    (hkeeps : KeepsBackslashes path) (position : Position) :
    diagnostic.place position =
      path ++ (':' :: (Text.ofNat position.line ++ ':' :: Text.ofNat position.column)) := by
  simp [place, shownPath_of_path hpath hne, hkeeps.end_not_lone]

/-- A place has no characters but steady ones if its path has no others. -/
theorem isSteady_of_mem_place (hpath : diagnostic.path = some path)
    (hsteady : ∀ c ∈ path, Console.isSteady c = true) (position : Position) :
    ∀ c ∈ diagnostic.place position, Console.isSteady c = true := by
  have hshown : ∀ c ∈ diagnostic.shownPath, Console.isSteady c = true := by
    by_cases hne : path = []
    · subst hne
      rw [shownPath, hpath]
      exact List.all_eq_true.mp (by decide)
    · rwa [shownPath_of_path hpath hne]
  have hslash : ∀ c ∈ (if endsInLoneBackslash diagnostic.shownPath then ['\\'] else []),
      Console.isSteady c = true := by
    split <;> exact List.all_eq_true.mp (by decide)
  intro c hc
  simp only [place, List.mem_append] at hc
  obtain (((((hc | hc) | hc) | hc) | hc) | hc) := hc
  · exact hshown c hc
  · exact hslash c hc
  · rw [List.mem_singleton.mp hc]
    decide
  · exact Console.isSteady_of_mem_ofNat hc
  · rw [List.mem_singleton.mp hc]
    decide
  · exact Console.isSteady_of_mem_ofNat hc

/-- A rule name and an inert message are made of steady characters. -/
theorem isSteady_of_mem_remark (hrule : isRuleName diagnostic.rule = true) {message : Text}
    (hmessage : ∀ c ∈ message, Console.isInert c = true) :
    ∀ c ∈ diagnostic.remark message, Console.isSteady c = true := by
  simp only [isRuleName, Bool.and_eq_true, List.all_eq_true] at hrule
  have hname : ∀ c ∈ diagnostic.rule, Console.isInert c = true := fun c hc => (hrule.2 c hc).1.1
  unfold remark
  simp only [List.forall_mem_append]
  exact ⟨⟨⟨List.all_eq_true.mp (by decide), isSteady_of_isInert hname⟩, List.all_eq_true.mp (by decide)⟩,
    isSteady_of_isInert hmessage⟩

theorem intendedHeader_eq (diagnostic : LocatedDiagnostic) (path : Text) (position : Position)
    (message : Text) :
    diagnostic.intendedHeader path position message =
      path ++ (':' :: (Text.ofNat position.line ++ ':' :: Text.ofNat position.column))
        ++ diagnostic.remark message ++ "\n" := by
  unfold intendedHeader remark
  simp

/-- The number of a line stays between its colons exactly if it is no emoji code. -/
theorem getD_eq_self_iff (position : Position) :
    (Emoji.ofCode? (Text.ofNat position.line)).getD (':' :: (Text.ofNat position.line ++ [':']))
        ++ Text.ofNat position.column =
      ':' :: (Text.ofNat position.line ++ ':' :: Text.ofNat position.column) ↔
    Emoji.ofCode? (Text.ofNat position.line) = none := by
  cases hsign : Emoji.ofCode? (Text.ofNat position.line) with
  | none => simp
  | some sign =>
    refine iff_of_false (fun heq => ?_) (by simp)
    rw [Option.getD_some] at heq
    have hcolon : ':' ∈ sign ++ Text.ofNat position.column := heq ▸ List.mem_cons_self
    obtain hmem | hmem := List.mem_append.mp hcolon
    · exact absurd (Emoji.isSign_of_ofCode? hsign _ hmem) (by decide)
    · exact Text.not_mem_ofNat (by decide) position.column hmem

/-- Every diagnostic of a built-in rule has a header. -/
theorem exists_hasHeader (hpath : diagnostic.path = some path)
    (hprintable : ∀ c ∈ path, isPrintable c = true) {rule : Rule} (hrule : rule ∈ Rule.builtin)
    (hname : diagnostic.rule = rule.name) (hmessage : diagnostic.message = rule.message)
    (hstart : 0 ≤ diagnostic.start) (source : Text) (showSource : Bool) :
    ∃ text, diagnostic.print (some source) showSource = ⟨text, none⟩ ∧
      ∃ header excerpt, text = header ++ excerpt ∧ diagnostic.HasHeader source path header ∧
        (showSource = false → excerpt = []) := by
  obtain ⟨position, message, hposition, hplain, hinert, hheader⟩ :=
    exists_header hrule hname hmessage hstart source
  have hruleName : isRuleName diagnostic.rule = true := hname ▸ Rule.isRuleName_builtin rule hrule
  have hsteady : ∀ c ∈ path, Console.isSteady c = true :=
    fun c hc => Console.isSteady_of_isPrintable (hprintable c hc)
  have hplace := isSteady_of_mem_place hpath hsteady position
  rw [Console.verbatimLine_of_steady (List.forall_mem_append.mpr
    ⟨isSteady_of_mem_shownText hplace, isSteady_of_mem_remark hruleName hinert⟩)] at hheader
  obtain ⟨excerpt, hprint, hexcerpt⟩ := print_eq hposition hheader showSource
  refine ⟨_, hprint, _, excerpt, rfl, ⟨position, message, hposition, hplain, rfl, fun hne hkeeps => ⟨?_, ?_⟩⟩,
    hexcerpt⟩
  all_goals
    have hplaceEq := place_of_keepsBackslashes hpath hne hkeeps position
    rw [intendedHeader_eq, ← hplaceEq]
  · intro hcodes
    have hpair : ¬ ['\\', '['] <:+: diagnostic.place position := by
      rw [hplaceEq]
      refine not_infix_append hkeeps.no_pair ?_
      simp [Text.not_mem_ofNat (show ('[').isDigit = false from rfl)]
    rw [shownText_eq_self hpair hcodes hplace]
  · intro hcolon
    rw [List.append_left_inj, List.append_left_inj, hplaceEq,
      shownText_numbered hkeeps.no_pair hcolon hsteady, List.append_right_inj,
      ← Emoji.ofCode?_ofNat_eq_none_iff]
    exact getD_eq_self_iff position

end LocatedDiagnostic

/-- Every diagnostic of the built-in rules in a fragment of a source is printed with a header line, and all
    of them in order. The line is the one intended if the console changes no backslash of the path and
    finds no emoji code in the place; without colons in the path that is so exactly unless the line has
    number 100 or 1234. -/
theorem printDiagnostics_headers {source : Text} {fragment : Fragment} (hfragment : fragment.IsOf source)
    {path : Text} (hpath : fragment.path = some path) (hprintable : ∀ c ∈ path, isPrintable c = true)
    (showSource : Bool) :
    ∃ found texts, (scan fragment Rule.builtin).value = .ok found ∧
      printDiagnostics (some source) showSource found = ⟨texts.flatten, none⟩ ∧
      List.Forall₂ (fun diagnostic text => ∃ header excerpt, text = header ++ excerpt ∧
        diagnostic.HasHeader source path header ∧ (showSource = false → excerpt = [])) found texts := by
  obtain ⟨base, rest, hbase, _⟩ := hfragment.drop_eq
  obtain ⟨found, hscan, hfound⟩ := scan_of_builtin (fun _ h => h) fragment
  have hprinted : ∀ diagnostic ∈ found, ∃ text,
      diagnostic.print (some source) showSource = ⟨text, none⟩ ∧ ∃ header excerpt, text = header ++ excerpt ∧
        diagnostic.HasHeader source path header ∧ (showSource = false → excerpt = []) := by
    intro diagnostic hdiagnostic
    obtain ⟨rule, hrule, offset, _, hplaced⟩ := hfound diagnostic hdiagnostic
    rw [Rule.locate_diagnose rule offset hbase] at hplaced
    subst hplaced
    exact LocatedDiagnostic.exists_hasHeader hpath hprintable hrule rfl rfl (Int.natCast_nonneg _) source
      showSource
  obtain ⟨texts, htexts, hprint⟩ := printDiagnostics_of_printed hprinted
  exact ⟨found, texts, hscan, hprint, htexts⟩

/-- Brackets and backslashes in a path are shown as they are. -/
theorem printDiagnostics_headers_bracketed :
    ∃ found, (scan (.external "\n cdk-focus-trap" (some "app/[id]\\a.html")) Rule.builtin).value = .ok found ∧
      printDiagnostics (some "\n cdk-focus-trap") false found =
        ⟨"app/[id]\\a.html:2:2: [cdk-focus-trap-selector] " ++ Rule.focusTrapWording.text .plain ++ "\n",
          none⟩ := by
  have hfragment : (Fragment.external "\n cdk-focus-trap" (some "app/[id]\\a.html")).IsOf
    "\n cdk-focus-trap" := .inr ⟨_, rfl⟩
  have hprintable : ∀ c ∈ ("app/[id]\\a.html" : Text), isPrintable c = true := List.all_eq_true.mp (by decide)
  obtain ⟨found, texts, hscan, hprint, htexts⟩ := printDiagnostics_headers hfragment rfl hprintable false
  refine ⟨found, hscan, ?_⟩
  have honce : Text.occurrences "\n cdk-focus-trap" Rule.focusTrapSelector.token = [2] := by decide +kernel
  obtain rfl := Except.ok.inj ((scan_builtin_of_once (by decide) honce).symm.trans hscan)
  obtain ⟨text, texts, ⟨header, excerpt, rfl, hheader, hexcerpt⟩, hrest, rfl⟩ :=
    List.forall₂_cons_left_iff.mp htexts
  obtain rfl := List.forall₂_nil_left_iff.mp hrest
  obtain ⟨position, message, hposition, hmessage, _, hplain⟩ := hheader
  have hsecond : Source.position "\n cdk-focus-trap" 2 = .ok ⟨2, 2⟩ := by decide +kernel
  obtain rfl := Except.ok.inj (hsecond.symm.trans hposition)
  obtain rfl := Except.ok.inj ((Rule.focusTrapSelector_spelled .plain).symm.trans hmessage)
  have hintended := ((hplain (by decide) (by decide +kernel)).2 (by decide)).mpr ⟨by decide, by decide⟩
  have hplace : ("app/[id]\\a.html" : Text) ++ ":" ++ Text.ofNat 2 ++ ":" ++ Text.ofNat 2 ++ ": ["
      ++ Rule.focusTrapSelector.name ++ "] " = "app/[id]\\a.html:2:2: [cdk-focus-trap-selector] " := by decide +kernel
  rw [hprint, hintended, hexcerpt rfl, ← hplace, List.append_nil, List.flatten_singleton]
  rfl

/-- A diagnostic in line 100 loses its line: the number and its colons are taken for an emoji. -/
theorem printDiagnostics_rewrites_line_hundred :
    let source : Text := Text.repeated 99 '\n' ++ "cdk-focus-trap"
    let diagnostic : LocatedDiagnostic :=
      ⟨"cdk-focus-trap-selector", 99, 113, Rule.focusTrapSelector.message, some "n.html"⟩
    let message := Rule.focusTrapWording.text .plain
    (scan (.external source (some "n.html")) Rule.builtin).value = .ok [diagnostic] ∧
      diagnostic.position source = .ok ⟨100, 1⟩ ∧ diagnostic.message.render .plain = .ok message ∧
      printDiagnostics (some source) false [diagnostic] =
        ⟨"n.html💯1: [cdk-focus-trap-selector] " ++ message ++ "\n", none⟩ ∧
      "n.html💯1: [cdk-focus-trap-selector] " ++ message ++ "\n" ≠
        diagnostic.intendedHeader "n.html" ⟨100, 1⟩ message := by
  intro source diagnostic message
  have hscan : (scan (.external source (some "n.html")) Rule.builtin).value = .ok [diagnostic] := by
    have hclose : '>' ∉ (Fragment.external source (some "n.html")).text := by decide
    have honce : source.occurrences Rule.focusTrapSelector.token = [99] := by decide +kernel
    exact scan_builtin_of_once hclose honce
  have hposition : diagnostic.position source = .ok ⟨100, 1⟩ := by decide +kernel
  have hmessage : diagnostic.message.render .plain = .ok message := Rule.focusTrapSelector_spelled .plain
  have hprintable : ∀ c ∈ ("n.html" : Text), isPrintable c = true := List.all_eq_true.mp (by decide)
  obtain ⟨text, hprint, header, excerpt, rfl,
      ⟨position, other, hposition', hmessage', hheader, hplain⟩, hexcerpt⟩ :=
    LocatedDiagnostic.exists_hasHeader (show diagnostic.path = some "n.html" from rfl) hprintable
      (show Rule.focusTrapSelector ∈ Rule.builtin from List.mem_cons_self) rfl rfl (by decide) source false
  obtain rfl := Except.ok.inj (hposition.symm.trans hposition')
  obtain rfl := Except.ok.inj (hmessage.symm.trans hmessage')
  have hkeeps : KeepsBackslashes "n.html" := by decide +kernel
  have hsign : Emoji.ofCode? (Text.ofNat 100) = some ['💯'] := rfl
  have hshown : header = "n.html💯1: [cdk-focus-trap-selector] " ++ message ++ "\n" := by
    have hstart : ("n.html" : Text) ++ (['💯'] ++ Text.ofNat 1) ++ ": [" ++ diagnostic.rule ++ "] " =
      "n.html💯1: [cdk-focus-trap-selector] " := by decide +kernel
    rw [hheader, LocatedDiagnostic.place_of_keepsBackslashes rfl (by decide) hkeeps,
      shownText_numbered hkeeps.no_pair (by decide)
        (fun c hc => Console.isSteady_of_isPrintable (hprintable c hc)), hsign, Option.getD_some, ← hstart]
    unfold LocatedDiagnostic.remark
    simp
  refine ⟨hscan, hposition, hmessage, ?_, ?_⟩
  · rw [← hshown, printDiagnostics, hprint, hexcerpt rfl]
    simp [printDiagnostics]
  · rw [← hshown]
    intro hintended
    exact (((hplain (by decide) hkeeps).2 (by decide)).mp hintended).1 rfl

end TemplateAudit
