import TemplateAudit.Proofs.Console.Tabs
import TemplateAudit.Proofs.Report.Header
import TemplateAudit.Proofs.Source.Position

namespace TemplateAudit

/-- What is dropped at the end of a text is dropped behind a character that is kept. -/
theorem Text.dropWhileEnd_append {drop : Char → Bool} {before : Text}
    (h : ∃ c ∈ before.getLast?, drop c = false) (after : Text) :
    dropWhileEnd drop (before ++ after) = before ++ dropWhileEnd drop after := by
  obtain ⟨c, hc, hkept⟩ := h
  have hstop : before.reverse.dropWhile drop = before.reverse := by
    obtain ⟨rest, hrest⟩ := List.head?_eq_some_iff.mp (List.head?_reverse.trans hc)
    rw [hrest, List.dropWhile_cons_of_neg (by simp [hkept])]
  rw [dropWhileEnd, dropWhileEnd, List.reverse_append, List.dropWhile_append, hstop]
  split
  · next hempty => simp [List.isEmpty_iff.mp hempty]
  · simp

namespace Source

/-- A line goes on behind a part of it that does not end in a carriage return. -/
theorem exists_lineAt {source part rest : Text} {offset : Nat} (hdrop : source.drop offset = part ++ rest)
    (hline : '\n' ∉ part) (hlast : ∃ c ∈ part.getLast?, (c == '\r') = false) :
    ∃ tail, '\n' ∉ tail ∧ lineAt source offset = lineHead (source.take offset) ++ part ++ tail := by
  obtain ⟨c, hc, hreturn⟩ := hlast
  have hbefore : ∃ c ∈ (lineHead (source.take offset) ++ part).getLast?, (c == '\r') = false :=
    ⟨c, by rw [List.getLast?_append, hc]; rfl, hreturn⟩
  refine ⟨Text.dropWhileEnd (· == '\r') (rest.takeWhile (· != '\n')), fun hmem => ?_, ?_⟩
  · rw [Text.dropWhileEnd, List.mem_reverse] at hmem
    have hwithin := List.mem_reverse.mp ((List.dropWhile_sublist _).mem hmem)
    exact absurd (List.mem_takeWhile_imp hwithin) (by decide)
  · rw [lineAt, hdrop, List.takeWhile_append_of_pos (forall_ne_of_newline_not_mem hline), ← List.append_assoc,
      Text.dropWhileEnd_append hbefore]

/-- The column, counted from zero, in which an excerpt shows the character at an offset: behind all that the
    console shows of the indent and of the line before it. -/
def excerptColumn (source : Text) (offset : Nat) : Nat :=
  (Console.shownLine ("    " ++ lineHead (source.take offset))).length

end Source

namespace LocatedDiagnostic

/-- The beginning of the line in which a diagnostic starts, up to there. -/
def lineBefore (diagnostic : LocatedDiagnostic) (source : Text) : Text :=
  Source.lineHead (source.take diagnostic.start.toNat)

/-- A diagnostic starts in the column behind what is shown of the line before it. -/
theorem excerptColumn_start (diagnostic : LocatedDiagnostic) (source : Text) :
    Source.excerptColumn source diagnostic.start.toNat =
      (Console.shownLine ("    " ++ diagnostic.lineBefore source)).length := rfl

/-- The columns with a caret are those in which the excerpt shows what the diagnostic spans. -/
def CaretsBelow (diagnostic : LocatedDiagnostic) (source underline : Text) : Prop :=
  ∀ column : Nat, underline[column]? = some '^' ↔
    ∃ offset : Nat, diagnostic.start ≤ offset ∧ offset < diagnostic.stop ∧
      column = Source.excerptColumn source offset

/-- The diagnostic spans a part of a line, without blanks and controls. -/
structure IsAbout (diagnostic : LocatedDiagnostic) (source marked : Text) : Prop where
  nonneg : 0 ≤ diagnostic.start
  part : ∃ rest, source.drop diagnostic.start.toNat = marked ++ rest
  stop : diagnostic.stop = diagnostic.start + marked.length
  ne_nil : marked ≠ []
  visible : ∀ c ∈ marked, 0x20 < c.toNat

/-- The two lines of an excerpt. The first shows what the diagnostic spans, character by character and
    behind what is shown of the line before it; the second has as many carets, in the columns of the
    source. -/
structure HasExcerpt (diagnostic : LocatedDiagnostic) (source excerpt underline : Text) : Prop where
  excerpt_eq : ∃ tail, excerpt = Console.shownLine ("    " ++ diagnostic.lineBefore source)
    ++ source.slice diagnostic.start.toNat diagnostic.stop.toNat ++ tail
  shown : ∀ offset : Nat, diagnostic.start ≤ offset → offset < diagnostic.stop →
    ∃ c, source[offset]? = some c ∧ excerpt[Source.excerptColumn source offset]? = some c
  underline_eq : underline = Text.repeated (4 + (diagnostic.lineBefore source).length) ' '
    ++ Text.repeated (diagnostic.stop - diagnostic.start).toNat '^'
  single : '\n' ∉ excerpt ∧ '\n' ∉ underline

/-- When the carets are below the match: if and only if it is shown in its column, which takes that no
    control is dropped before it if there is no tab, and that every tab is shown as a single space if there is
    no such control. -/
structure PlacesCarets (diagnostic : LocatedDiagnostic) (source underline : Text) : Prop where
  below_iff : diagnostic.CaretsBelow source underline ↔
    Source.excerptColumn source diagnostic.start.toNat = 4 + (diagnostic.lineBefore source).length
  of_no_tab : '\t' ∉ diagnostic.lineBefore source → (diagnostic.CaretsBelow source underline ↔
    ∀ c ∈ diagnostic.lineBefore source, Console.isDropped c = false)
  of_no_control : (∀ c ∈ diagnostic.lineBefore source, Console.isDropped c = false) →
    (diagnostic.CaretsBelow source underline ↔
      Console.shownLine ("    " ++ diagnostic.lineBefore source) =
        "    " ++ (diagnostic.lineBefore source).map fun c => if c = '\t' then ' ' else c)

/-- What is printed of a diagnostic: its header, and the two lines of its excerpt. -/
def PrintedWithExcerpt (diagnostic : LocatedDiagnostic) (source text : Text) : Prop :=
  ∃ header excerpt underline, diagnostic.header (some source) = .ok header ∧
    text = header ++ (excerpt ++ "\n" ++ (underline ++ "\n")) ∧
    diagnostic.HasExcerpt source excerpt underline ∧ diagnostic.PlacesCarets source underline

section IsAbout

variable {diagnostic : LocatedDiagnostic} {source marked : Text} (h : diagnostic.IsAbout source marked)

include h

theorem IsAbout.newline_not_mem : '\n' ∉ marked :=
  fun hmem => absurd (h.visible '\n' hmem) (by decide)

/-- A marked part is made of steady characters. -/
theorem IsAbout.isSteady : ∀ c ∈ marked, Console.isSteady c = true := by
  intro c hc
  have hvisible := h.visible c hc
  have hdropped : Console.isDropped c = false := by
    simp only [Console.isDropped, List.contains_eq_mem, List.mem_cons, List.not_mem_nil, or_false,
      decide_eq_false_iff_not]
    omega
  have htab : c ≠ '\t' := by
    rintro rfl
    exact absurd hvisible (by decide)
  simp [Console.isSteady, hdropped, htab]

theorem IsAbout.stop_toNat : diagnostic.stop.toNat = diagnostic.start.toNat + marked.length := by
  have hnonneg := h.nonneg
  have hstop := h.stop
  omega

theorem IsAbout.slice_eq : source.slice diagnostic.start.toNat diagnostic.stop.toNat = marked := by
  obtain ⟨rest, hrest⟩ := h.part
  exact Text.slice_of_drop hrest h.stop_toNat

theorem IsAbout.getElem?_eq {shift : Nat} (hshift : shift < marked.length) :
    source[diagnostic.start.toNat + shift]? = some marked[shift] := by
  obtain ⟨rest, hrest⟩ := h.part
  rw [← List.getElem?_drop, hrest, List.getElem?_append_left hshift, List.getElem?_eq_getElem hshift]

theorem IsAbout.start_lt : diagnostic.start.toNat < source.length := by
  obtain ⟨rest, hrest⟩ := h.part
  have hlength := congrArg List.length hrest
  rw [List.length_drop, List.length_append] at hlength
  have hpos := List.length_pos_iff.mpr h.ne_nil
  omega

theorem IsAbout.clamp_eq : Source.clamp source diagnostic.start = .ok diagnostic.start.toNat := by
  have hnonneg := h.nonneg
  rw [Source.clamp, if_neg (by omega), Nat.min_eq_left (Nat.le_of_lt h.start_lt)]

/-- The line has the marked part behind what is before it, and ends later. -/
theorem IsAbout.exists_line :
    ∃ tail, '\n' ∉ tail ∧
      Source.line source diagnostic.start = .ok (diagnostic.lineBefore source ++ marked ++ tail) := by
  obtain ⟨rest, hrest⟩ := h.part
  have hlast : ∃ c ∈ marked.getLast?, (c == '\r') = false := by
    refine ⟨marked.getLast h.ne_nil, List.getLast?_eq_some_getLast h.ne_nil, beq_eq_false_iff_ne.mpr ?_⟩
    intro hreturn
    have hvisible := h.visible _ (List.getLast_mem h.ne_nil)
    rw [hreturn] at hvisible
    exact absurd hvisible (by decide)
  obtain ⟨tail, htail, hline⟩ := Source.exists_lineAt hrest h.newline_not_mem hlast
  refine ⟨tail, htail, ?_⟩
  rw [Source.line, h.clamp_eq, lineBefore, ← hline]
  rfl

theorem IsAbout.column_eq {position : Position} (hposition : diagnostic.position source = .ok position) :
    position.column = (diagnostic.lineBefore source).length + 1 := by
  rw [LocatedDiagnostic.position, Source.position, h.clamp_eq] at hposition
  obtain rfl := Except.ok.inj hposition
  rfl

/-- The match is shown as it is behind what is shown before it. -/
theorem IsAbout.excerptColumn_eq {shift : Nat} (hshift : shift ≤ marked.length) :
    Source.excerptColumn source (diagnostic.start.toNat + shift) =
      Source.excerptColumn source diagnostic.start.toNat + shift := by
  obtain ⟨rest, hrest⟩ := h.part
  have htake : source.take (diagnostic.start.toNat + shift) =
      source.take diagnostic.start.toNat ++ marked.take shift := by
    rw [List.take_add, hrest, List.take_append_of_le_length hshift]
  have hline : '\n' ∉ marked.take shift := fun hmem => h.newline_not_mem (List.mem_of_mem_take hmem)
  have hnewline : '\n' ∉ "    " ++ diagnostic.lineBefore source ++ marked.take shift := by
    simp [lineBefore, Source.newline_not_mem_lineHead, hline]
  obtain ⟨later, hlater, hsame⟩ := Console.exists_shownLine_append hnewline
  rw [hsame fun c hc => h.isSteady c (List.mem_of_mem_take hc)] at hlater
  rw [excerptColumn_start, Source.excerptColumn, htake, Source.lineHead_append hline, ← List.append_assoc,
    ← lineBefore, hlater, List.length_append, List.length_take_of_le hshift]

/-- The carets are below the match exactly if its column on the console is that in the source. -/
theorem IsAbout.caretsBelow_iff {underline : Text}
    (hunderline : underline = Text.repeated (4 + (diagnostic.lineBefore source).length) ' '
      ++ Text.repeated marked.length '^') :
    diagnostic.CaretsBelow source underline ↔
      Source.excerptColumn source diagnostic.start.toNat = 4 + (diagnostic.lineBefore source).length := by
  have hnonneg := h.nonneg
  have hstop := h.stop
  have hpos := List.length_pos_iff.mpr h.ne_nil
  have hcaret : ∀ column : Nat, underline[column]? = some '^' ↔
      4 + (diagnostic.lineBefore source).length ≤ column ∧
        column < 4 + (diagnostic.lineBefore source).length + marked.length := by
    intro column
    rw [hunderline, List.getElem?_append]
    simp only [Text.repeated, List.length_replicate, List.getElem?_replicate]
    split
    · simp
      omega
    · simp
      omega
  have hshown : ∀ column : Nat, (∃ offset : Nat, diagnostic.start ≤ offset ∧ offset < diagnostic.stop ∧
        column = Source.excerptColumn source offset) ↔
      Source.excerptColumn source diagnostic.start.toNat ≤ column ∧
        column < Source.excerptColumn source diagnostic.start.toNat + marked.length := by
    intro column
    constructor
    · rintro ⟨offset, hle, hlt, rfl⟩
      have hcolumn := h.excerptColumn_eq (show offset - diagnostic.start.toNat ≤ marked.length by omega)
      rw [Nat.add_sub_cancel' (by omega)] at hcolumn
      omega
    · rintro ⟨hle, hlt⟩
      have hcolumn := h.excerptColumn_eq
        (show column - Source.excerptColumn source diagnostic.start.toNat ≤ marked.length by omega)
      exact ⟨diagnostic.start.toNat + (column - Source.excerptColumn source diagnostic.start.toNat),
        by omega, by omega, by omega⟩
  rw [CaretsBelow]
  simp only [hcaret, hshown]
  constructor
  · intro hsame
    have hfirst := (hsame (4 + (diagnostic.lineBefore source).length)).mp (by omega)
    have hstart := (hsame (Source.excerptColumn source diagnostic.start.toNat)).mpr (by omega)
    omega
  · intro hcolumn column
    rw [hcolumn]

/-- The marked part is underlined from end to end. -/
theorem IsAbout.underlineWidth_eq {position : Position} (hposition : diagnostic.position source = .ok position)
    (tail : Text) :
    diagnostic.underlineWidth (diagnostic.lineBefore source ++ marked ++ tail) position.column =
      marked.length := by
  have hcolumn := h.column_eq hposition
  have hstop := h.stop
  have hpos := List.length_pos_iff.mpr h.ne_nil
  rw [underlineWidth, hcolumn]
  simp only [List.length_append]
  omega

theorem IsAbout.newline_not_mem_line {tail : Text} (htail : '\n' ∉ tail) :
    '\n' ∉ "    " ++ diagnostic.lineBefore source ++ marked ++ tail := by
  simp [lineBefore, Source.newline_not_mem_lineHead, h.newline_not_mem, htail]

/-- Of the line the console shows what is before the match first, then the match as it is. -/
theorem IsAbout.exists_shown {tail : Text} (htail : '\n' ∉ tail) :
    ∃ later, Console.shownLine ("    " ++ diagnostic.lineBefore source ++ marked ++ tail) =
      Console.shownLine ("    " ++ diagnostic.lineBefore source) ++ marked ++ later := by
  have hnewline := h.newline_not_mem_line htail
  obtain ⟨later, hlater, _⟩ := Console.exists_shownLine_append hnewline
  obtain ⟨same, hsame, hsteady⟩ := Console.exists_shownLine_append fun hmem =>
    hnewline (List.mem_append_left tail hmem)
  rw [hsteady h.isSteady] at hsame
  exact ⟨later, by rw [hlater, hsame]⟩

/-- A diagnostic that marks a part of a line has an excerpt. -/
theorem IsAbout.exists_excerpt {position : Position} (hposition : diagnostic.position source = .ok position) :
    ∃ line underline, diagnostic.excerpt source = .ok (line ++ "\n" ++ (underline ++ "\n")) ∧
      diagnostic.HasExcerpt source line underline := by
  obtain ⟨line, hline, hexcerpt⟩ := LocatedDiagnostic.exists_excerpt hposition
  obtain ⟨tail, htail, hwhole⟩ := h.exists_line
  obtain rfl := Except.ok.inj (hline.symm.trans hwhole)
  rw [h.underlineWidth_eq hposition, h.column_eq hposition, Int.toNat_natCast, Nat.add_sub_cancel] at hexcerpt
  obtain ⟨later, hshown⟩ := h.exists_shown htail
  refine ⟨Console.shownLine ("    " ++ (diagnostic.lineBefore source ++ marked ++ tail)), _, hexcerpt, ?_⟩
  rw [← List.append_assoc, ← List.append_assoc]
  constructor
  case excerpt_eq => exact ⟨later, by rw [h.slice_eq, hshown]⟩
  case shown =>
    intro offset hle hlt
    have hnonneg := h.nonneg
    have hstop := h.stop
    obtain ⟨shift, hoffset⟩ : ∃ shift, offset = diagnostic.start.toNat + shift :=
      Nat.exists_eq_add_of_le (by omega)
    have hshift : shift < marked.length := by omega
    have hsource := h.getElem?_eq hshift
    refine ⟨marked[shift], by rw [hoffset, hsource], ?_⟩
    rw [hoffset, h.excerptColumn_eq (Nat.le_of_lt hshift), hshown, List.append_assoc, excerptColumn_start,
      List.getElem?_append_right (Nat.le_add_right _ _), Nat.add_sub_cancel_left,
      List.getElem?_append_left hshift, List.getElem?_eq_getElem hshift]
  case underline_eq =>
    have hstop := h.stop
    have hwidth : (diagnostic.stop - diagnostic.start).toNat = marked.length := by omega
    rw [hwidth]
  case single =>
    exact ⟨Console.newline_not_mem_shownLine (h.newline_not_mem_line htail), by simp [Text.repeated]⟩

end IsAbout

section Carets

variable {diagnostic : LocatedDiagnostic} {source marked : Text} (h : diagnostic.IsAbout source marked)
  {underline : Text} (hunderline : underline = Text.repeated (4 + (diagnostic.lineBefore source).length) ' '
    ++ Text.repeated marked.length '^')

include h hunderline

/-- The carets are below the match exactly if as many columns as characters are shown before it. -/
theorem IsAbout.caretsBelow_iff_length : diagnostic.CaretsBelow source underline ↔
    (Console.shownLine ("    " ++ diagnostic.lineBefore source)).length =
      ("    " ++ diagnostic.lineBefore source).length := by
  rw [h.caretsBelow_iff hunderline, excerptColumn_start, List.length_append]
  rfl

/-- Where the carets stand is known for every line that may be before the match. -/
theorem IsAbout.placesCarets : diagnostic.PlacesCarets source underline := by
  have hindent : ∀ c ∈ ("    " : Text), Console.isDropped c = false := by simp [Console.isDropped]
  constructor
  case below_iff => exact h.caretsBelow_iff hunderline
  case of_no_tab =>
    intro htab
    rw [h.caretsBelow_iff_length hunderline, Console.length_shownLine_of_no_tab (by simp [htab]),
      List.forall_mem_append]
    exact and_iff_right hindent
  case of_no_control =>
    intro hcontrol
    have hline : '\n' ∉ "    " ++ diagnostic.lineBefore source := by
      simp [lineBefore, Source.newline_not_mem_lineHead]
    rw [h.caretsBelow_iff_length hunderline, Console.length_shownLine_of_no_control hline
      (List.forall_mem_append.mpr ⟨hindent, hcontrol⟩), List.map_append]
    rfl

end Carets

/-- A diagnostic with a header that is about a part of a line is printed with its excerpt. -/
theorem IsAbout.exists_print {diagnostic : LocatedDiagnostic} {source marked header : Text}
    (h : diagnostic.IsAbout source marked) (hheader : diagnostic.header (some source) = .ok header) :
    ∃ text, diagnostic.print (some source) true = ⟨text, none⟩ ∧
      diagnostic.PrintedWithExcerpt source text := by
  obtain ⟨position, hposition⟩ := exists_position h.nonneg source
  obtain ⟨excerpt, underline, hexcerpt, hlines⟩ := h.exists_excerpt hposition
  have hstop := h.stop
  have hwidth : (diagnostic.stop - diagnostic.start).toNat = marked.length := by omega
  have hunderline := hlines.underline_eq
  rw [hwidth] at hunderline
  exact ⟨_, print_of_excerpt hheader hexcerpt, header, excerpt, underline, hheader, rfl, hlines,
    h.placesCarets hunderline⟩

end LocatedDiagnostic

/-- In a source that the fragment is of, a diagnostic of a built-in rule is about the match. -/
theorem Rule.MatchesAt.exists_isAbout {rule : Rule} (hrule : rule ∈ builtin) {fragment : Fragment}
    {source : Text} (hfragment : fragment.IsOf source) {offset : Nat}
    (h : rule.MatchesAt fragment.text offset) :
    ∃ marked, ((rule.diagnose offset).locate fragment).IsAbout source marked := by
  obtain ⟨base, rest, hbase, hdrop⟩ := hfragment.drop_eq
  obtain ⟨marked, _, hpart, hlength, hspelling⟩ := h.exists_part hdrop
  have hpos := List.length_pos_iff.mpr rule.token_ne_nil
  refine ⟨marked, ?_⟩
  rw [Rule.locate_diagnose rule offset hbase]
  constructor
  case nonneg => exact Int.natCast_nonneg _
  case part => exact ⟨_, hpart⟩
  case stop =>
    simp only [hlength]
    omega
  case ne_nil => exact List.length_pos_iff.mp (by omega)
  case visible => exact visible_of_spelling hrule hspelling

/-- With excerpts, every diagnostic of the built-in rules in a fragment of a source is printed with its
    header, the line of the match and the underline, and all of them in order. The carets are below the match
    if and only if the console shows the line before it in as many characters as the source has there. -/
theorem printDiagnostics_carets {source : Text} {fragment : Fragment} (hfragment : fragment.IsOf source) :
    ∃ found texts, (scan fragment Rule.builtin).value = .ok found ∧
      printDiagnostics (some source) true found = ⟨texts.flatten, none⟩ ∧
      List.Forall₂ (fun diagnostic text => diagnostic.PrintedWithExcerpt source text) found texts := by
  obtain ⟨found, hscan, hfound⟩ := scan_of_builtin (fun _ h => h) fragment
  have hprinted : ∀ diagnostic ∈ found, ∃ text, diagnostic.print (some source) true = ⟨text, none⟩ ∧
      diagnostic.PrintedWithExcerpt source text := by
    intro diagnostic hdiagnostic
    obtain ⟨rule, hrule, offset, hmatches, hplaced⟩ := hfound diagnostic hdiagnostic
    obtain ⟨marked, habout⟩ := hmatches.exists_isAbout hrule hfragment
    subst hplaced
    obtain ⟨_, _, _, _, _, hheader⟩ :=
      LocatedDiagnostic.exists_header hrule rfl rfl habout.nonneg source
    exact habout.exists_print hheader
  obtain ⟨texts, htexts, hprint⟩ := printDiagnostics_of_printed hprinted
  exact ⟨found, texts, hscan, hprint, htexts⟩

/-- Behind wide characters the carets are where they should be, for columns count characters. -/
theorem printDiagnostics_carets_wide :
    let source : Text := "\t\n漢é cdk-focus-trap"
    let diagnostic : LocatedDiagnostic :=
      ⟨"cdk-focus-trap-selector", 5, 19, Rule.focusTrapSelector.message, none⟩
    (scan (.external source none) Rule.builtin).value = .ok [diagnostic] ∧
      ∃ header excerpt underline,
        printDiagnostics (some source) true [diagnostic] =
          ⟨header ++ (excerpt ++ "\n" ++ (underline ++ "\n")), none⟩ ∧
        underline = "       ^^^^^^^^^^^^^^" ∧ diagnostic.CaretsBelow source underline := by
  intro source diagnostic
  have hfragment : (Fragment.external source none).IsOf source := .inr ⟨_, rfl⟩
  have hscan : (scan (.external source none) Rule.builtin).value = .ok [diagnostic] := by
    have hclose : '>' ∉ (Fragment.external source none).text := by decide
    have honce : Text.occurrences "\t\n漢é cdk-focus-trap" Rule.focusTrapSelector.token = [5] := by decide +kernel
    exact scan_builtin_of_once hclose honce
  obtain ⟨found, texts, hfound, hprint, htexts⟩ := printDiagnostics_carets hfragment
  obtain rfl := Except.ok.inj (hscan.symm.trans hfound)
  obtain ⟨text, texts, ⟨header, excerpt, underline, _, rfl, hlines, hcarets⟩, hrest, rfl⟩ :=
    List.forall₂_cons_left_iff.mp htexts
  obtain rfl := List.forall₂_nil_left_iff.mp hrest
  have hbefore : diagnostic.lineBefore source = "漢é " := rfl
  refine ⟨hscan, header, excerpt, underline, ?_, ?_, ?_⟩
  · rw [hprint, List.flatten_singleton]
  · rw [hlines.underline_eq, hbefore]
    rfl
  · rw [hcarets.of_no_tab (by rw [hbefore]; decide), hbefore]
    exact List.forall_mem_cons.mpr ⟨rfl, List.forall_mem_cons.mpr ⟨rfl, List.forall_mem_singleton.mpr rfl⟩⟩

/-- A tab before the match is shown as four columns here, and the carets miss the first three. -/
theorem printDiagnostics_misplaces_carets :
    let source : Text := "\tcdk-focus-trap"
    let diagnostic : LocatedDiagnostic :=
      ⟨"cdk-focus-trap-selector", 1, 15, Rule.focusTrapSelector.message, some "a.html"⟩
    let underline : Text := "     ^^^^^^^^^^^^^^"
    (scan (.external source (some "a.html")) Rule.builtin).value = .ok [diagnostic] ∧
      (∃ header, diagnostic.header (some source) = .ok header ∧
        printDiagnostics (some source) true [diagnostic] =
          ⟨header ++ ("        cdk-focus-trap\n" ++ (underline ++ "\n")), none⟩) ∧
      Source.excerptColumn source 1 = 8 ∧ ¬ diagnostic.CaretsBelow source underline := by
  intro source diagnostic underline
  have hscan : (scan (.external source (some "a.html")) Rule.builtin).value = .ok [diagnostic] := by
    have hclose : '>' ∉ (Fragment.external source (some "a.html")).text := by decide
    have honce : Text.occurrences "\tcdk-focus-trap" Rule.focusTrapSelector.token = [1] := by decide +kernel
    exact scan_builtin_of_once hclose honce
  have hrule : Rule.focusTrapSelector ∈ Rule.builtin := List.mem_cons_self
  have habout : diagnostic.IsAbout source "cdk-focus-trap" :=
    ⟨by decide, ⟨[], rfl⟩, rfl, by decide, Rule.visible_of_spelling hrule rfl⟩
  have hcolumn : Source.excerptColumn "\tcdk-focus-trap" 1 = 8 := by decide +kernel
  have hline : Source.line "\tcdk-focus-trap" 1 = .ok "\tcdk-focus-trap" := by decide +kernel
  have hposition : diagnostic.position source = .ok ⟨1, 2⟩ := by rfl
  have hname : diagnostic.rule = Rule.focusTrapSelector.name := rfl
  obtain ⟨_, _, _, _, _, hheader⟩ := LocatedDiagnostic.exists_header hrule hname rfl (by decide) source
  obtain ⟨line, hsame, hexcerpt⟩ := LocatedDiagnostic.exists_excerpt hposition
  obtain rfl := Except.ok.inj (hline.symm.trans hsame)
  have hshown : LocatedDiagnostic.excerptLine "\tcdk-focus-trap" = "        cdk-focus-trap\n" := by decide +kernel
  rw [hshown] at hexcerpt
  refine ⟨hscan, ⟨_, hheader, ?_⟩, hcolumn, ?_⟩
  · rw [printDiagnostics, LocatedDiagnostic.print_of_excerpt hheader hexcerpt]
    simp only [printDiagnostics, List.append_nil]
    rfl
  · have hiff : diagnostic.CaretsBelow source underline ↔ Source.excerptColumn source 1 = 5 :=
      habout.caretsBelow_iff rfl
    exact fun hbelow => absurd (hcolumn.symm.trans (hiff.mp hbelow)) (by decide)

end TemplateAudit
