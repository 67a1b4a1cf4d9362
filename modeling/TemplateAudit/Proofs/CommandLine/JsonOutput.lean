import TemplateAudit.Proofs.CommandLine.Run
import TemplateAudit.Proofs.Json.Console
import TemplateAudit.Proofs.Report.Decode

namespace TemplateAudit

/-- The entry with another path for the one it goes by. -/
def ReportEntry.mapPath (change : Text → Text) (entry : ReportEntry) : ReportEntry :=
  { entry with path := entry.path.map change }

/-- The report with other paths. -/
def Report.mapPaths (change : Text → Text) (report : Report) : Report :=
  { report with entries := report.entries.map (ReportEntry.mapPath change) }

theorem Report.numbers_mapPaths (change : Text → Text) (report : Report) :
    (report.mapPaths change).numbers = report.numbers := by
  rw [numbers, numbers, mapPaths, List.flatMap_map]
  rfl

theorem ReportEntry.mapPath_eq_self_iff {change : Text → Text} {entry : ReportEntry} :
    entry.mapPath change = entry ↔ ∀ path ∈ entry.path, change path = path := by
  obtain ⟨rule, path, start, stop, line, column, message⟩ := entry
  cases path <;> simp [mapPath]

theorem Report.mapPaths_eq_self_iff {change : Text → Text} {report : Report} :
    report.mapPaths change = report ↔ ∀ entry ∈ report.entries, ∀ path ∈ entry.path, change path = path := by
  obtain ⟨files, entries⟩ := report
  have hmap := @List.map_inj_left _ _ entries (ReportEntry.mapPath change) id
  simpa [mapPaths, ReportEntry.mapPath_eq_self_iff] using hmap

namespace Json

theorem shownAs_string_of_notMem {text : Text} (h : ':' ∉ text) : ShownAs (.string text) (.string text) :=
  shownAs_string (Emoji.replaceCodes_of_notMem (mt colon_mem_written_iff.mp h)).symm

theorem shownAs_memberFor {key : Text} (hkey : ':' ∉ key) {value shown : Json} (h : ShownAs value shown) :
    List.Forall₂ MemberShownAs (memberFor key value) (memberFor key shown) :=
  .cons ⟨rfl, hkey, h⟩ .nil

/-- An optional member is shown with the value that is shown, or is absent both times. -/
theorem shownAs_optionalMember {α : Type} {key : Text} (hkey : ':' ∉ key) (value : Option α)
    {read shown : α → Json} (h : ∀ a, ShownAs (read a) (shown a)) :
    List.Forall₂ MemberShownAs (optionalMember key (value.map read))
      (optionalMember key (value.map shown)) := by
  cases value with
  | none => exact .nil
  | some a => exact .cons ⟨rfl, hkey, h a⟩ .nil

end Json

section Shown

variable {shown : Text → Text}
  (hshown : ∀ text, Json.written (shown text) = Emoji.replaceCodes (Json.written text))

include hshown

/-- A console changes nothing of an entry but its path. -/
theorem ReportEntry.shownAs_toJson {entry : ReportEntry} (hrule : ':' ∉ entry.rule)
    (hmessage : ':' ∉ entry.message) : Json.ShownAs entry.toJson (entry.mapPath shown).toJson := by
  have hpath := Json.shownAs_optionalMember (show ':' ∉ ("path" : Text) by decide) entry.path
    fun path => Json.shownAs_string (hshown path)
  refine Json.shownAs_object (List.rel_append (List.rel_append (List.rel_append (List.rel_append
    (List.rel_append (List.rel_append ?_ ?_) ?_) ?_) ?_) ?_) ?_)
  · exact Json.shownAs_memberFor (by decide) (Json.shownAs_string_of_notMem hrule)
  · rw [mapPath, Option.map_map]
    exact hpath
  · exact Json.shownAs_memberFor (by decide) (Json.shownAs_int _)
  · exact Json.shownAs_memberFor (by decide) (Json.shownAs_int _)
  · exact Json.shownAs_optionalMember (by decide) entry.line Json.shownAs_int
  · exact Json.shownAs_optionalMember (by decide) entry.column Json.shownAs_int
  · exact Json.shownAs_memberFor (by decide) (Json.shownAs_string_of_notMem hmessage)

/-- A console changes nothing of a report but its paths. -/
theorem Report.shownAs_toJson {report : Report}
    (h : ∀ entry ∈ report.entries, ':' ∉ entry.rule ∧ ':' ∉ entry.message) :
    Json.ShownAs report.toJson (report.mapPaths shown).toJson := by
  have hentries : List.Forall₂ Json.ShownAs (report.entries.map ReportEntry.toJson)
      ((report.entries.map (ReportEntry.mapPath shown)).map ReportEntry.toJson) := by
    rw [List.map_map, List.forall₂_map_left_iff, List.forall₂_map_right_iff, List.forall₂_same]
    exact fun entry hentry => ReportEntry.shownAs_toJson hshown (h entry hentry).1 (h entry hentry).2
  exact Json.shownAs_object (List.rel_append
    (Json.shownAs_memberFor (show ':' ∉ ("files" : Text) by decide) (Json.shownAs_int report.files))
    (Json.shownAs_memberFor (show ':' ∉ ("diagnostics" : Text) by decide) (Json.shownAs_array hentries)))

/-- What a console prints for a report is read back with the paths that it shows. -/
theorem Report.decode_untaggedLine {report : Report}
    (hplain : ∀ entry ∈ report.entries, ':' ∉ entry.rule ∧ ':' ∉ entry.message)
    (hnumbers : ∀ n ∈ report.numbers, Numeral.isTooLong n = false) :
    Console.untaggedLine report.encode = (report.mapPaths shown).encode ++ "\n" ∧
      decode (Console.untaggedLine report.encode) = .ok (report.mapPaths shown) := by
  rw [← numbers_mapPaths shown report] at hnumbers
  have hline := Json.untaggedLine_render (shownAs_toJson hshown hplain) (readable_toJson hnumbers 0)
  refine ⟨hline, ?_⟩
  rw [encode, hline]
  exact decode_encode hnumbers (List.all_eq_true.mp (by decide))

end Shown

namespace CommandLine

variable {files : FileSystem} {options : Options} {settings : Settings} {rules : List Rule}

/-- What a run reports has no colons but in its paths. -/
theorem colon_not_mem_of_mem_report {arguments : List Text}
    (hoptions : Options.ofArguments arguments = .ok options) (hlist : options.listRules = false)
    (hprepare : prepare files options = .ok (settings, rules)) :
    ∀ entry ∈ (run files arguments).report.entries, ':' ∉ entry.rule ∧ ':' ∉ entry.message := by
  have hnames : ∀ rule ∈ Rule.builtin, ':' ∉ rule.name := by decide +kernel
  have hrules := mem_builtin_of_prepare hprepare
  rw [report_run hoptions hlist hprepare]
  intro entry hentry
  obtain ⟨template, path, _, rule, hrule, offset, _, hdescribes⟩ :=
    FileSystem.describes_match_of_mem_auditPaths hrules hentry
  obtain ⟨wording, hspelled, hinert⟩ := Rule.builtin_spelled rule (hrules rule hrule)
  have hmessage : wording.text .plain = entry.message :=
    Except.ok.inj ((hspelled .plain).symm.trans hdescribes.message)
  rw [hdescribes.rule, ← hmessage]
  exact ⟨hnames rule (hrules rule hrule), not_colon_of_isInert (Wording.isInert_of_mem_text hinert)⟩

/-- A run for JSON that does not fail prints its report and nothing else. -/
theorem output_run_json {arguments : List Text} {status : Nat}
    (hoptions : Options.ofArguments arguments = .ok options) (hlist : options.listRules = false)
    (hprepare : prepare files options = .ok (settings, rules))
    (hformat : options.format.getD settings.format = .json)
    (hstatus : (run files arguments).status = .ok status) (hcarried : status ≠ statusFailed) :
    (run files arguments).output = Console.untaggedLine (run files arguments).report.encode := by
  obtain ⟨hpaths, _⟩ := prepared_of_status hoptions hlist hstatus hcarried
  have hrun := run_eq_audit hoptions hlist hpaths hprepare
  rw [hrun] at hstatus
  have houtput := (audit_of_complete (complete_of_status hstatus hcarried)).2
  rwa [← hrun, ← report_run hoptions hlist hprepare, hformat, audited, hformat,
    FileSystem.output_auditPaths_json, List.nil_append] at houtput

/-- A run for JSON that does not fail prints its report with the paths as a console shows them, and this is
    read back. So what is read back is the report unless a path, as JSON writes it, has an emoji code; and
    a path needs two colons for that. -/
theorem run_output_decodes {arguments : List Text} {status : Nat}
    (hoptions : Options.ofArguments arguments = .ok options) (hlist : options.listRules = false)
    (hprepare : prepare files options = .ok (settings, rules))
    (hformat : options.format.getD settings.format = .json)
    (hstatus : (run files arguments).status = .ok status) (hcarried : status ≠ statusFailed)
    (hnumbers : ∀ n ∈ (run files arguments).report.numbers, Numeral.isTooLong n = false) :
    ∃ shown : Text → Text, (∀ text, Json.written (shown text) = Emoji.replaceCodes (Json.written text)) ∧
      (run files arguments).output = ((run files arguments).report.mapPaths shown).encode ++ "\n" ∧
      Report.decode (run files arguments).output = .ok ((run files arguments).report.mapPaths shown) ∧
      (Report.decode (run files arguments).output = .ok (run files arguments).report ↔
        ∀ entry ∈ (run files arguments).report.entries, ∀ path ∈ entry.path,
          Emoji.replaceCodes (Json.written path) = Json.written path) ∧
      ((∀ entry ∈ (run files arguments).report.entries, ∀ path ∈ entry.path, path.count ':' < 2) →
        Report.decode (run files arguments).output = .ok (run files arguments).report) := by
  have hplain := colon_not_mem_of_mem_report hoptions hlist hprepare
  have houtput := output_run_json hoptions hlist hprepare hformat hstatus hcarried
  -- The choice is no choice: what is written determines the text.
  choose shown hshown using Json.exists_written_replaceCodes
  obtain ⟨hline, hdecode⟩ := Report.decode_untaggedLine hshown hplain hnumbers
  have hkept : Report.decode (run files arguments).output = .ok (run files arguments).report ↔
      ∀ entry ∈ (run files arguments).report.entries, ∀ path ∈ entry.path,
        Emoji.replaceCodes (Json.written path) = Json.written path := by
    rw [houtput, hdecode, Except.ok.injEq, Report.mapPaths_eq_self_iff]
    simp only [← hshown, Json.written_inj]
  refine ⟨shown, hshown, houtput.trans hline, houtput ▸ hdecode, hkept, fun hcolons => hkept.mpr ?_⟩
  intro entry hentry path hpath
  refine Emoji.replaceCodes_of_codeFree (Emoji.codeFree_of_count ?_)
  rw [Json.count_colon_written]
  exact hcolons entry hentry path hpath

theorem isTooLong_of_le {n : Int} (h : n.natAbs ≤ Numeral.maxDigits) : Numeral.isTooLong n = false := by
  rw [Numeral.isTooLong, decide_eq_false_iff_not, Nat.not_le, Nat.pow_eq]
  exact Nat.lt_of_le_of_lt h (Nat.lt_pow_self (by decide))

/-- A run over a file that holds the selector and nothing else. -/
theorem run_selector_alone {arguments : List Text} {path : Path} {content : Bytes}
    (hoptions : Options.ofArguments arguments = .ok options) (hlist : options.listRules = false)
    (hpaths : options.paths = [path]) (hprepare : prepare files options = .ok (settings, Rule.builtin))
    (hnode : files.node? path = .ok (some (.file content)))
    (hsuffix : path.hasSuffix componentSuffixes = false)
    (htext : files.readText path = .ok "cdk-focus-trap") :
    (run files arguments).status = .ok statusFound ∧
      ∃ entry : ReportEntry, (run files arguments).report = ⟨1, [entry]⟩ ∧ entry.path = some path.text ∧
        ∀ n ∈ (run files arguments).report.numbers, Numeral.isTooLong n = false := by
  have honce : Text.occurrences "cdk-focus-trap" Rule.focusTrapSelector.token = [0] := by decide +kernel
  obtain ⟨hcomplete, entry, hreport, hentry⟩ :=
    report_run_selector_once hoptions hlist hpaths hprepare hnode hsuffix htext (by decide) honce
  have hstatus := (audit_of_complete hcomplete).1
  rw [← report_run hoptions hlist hprepare, hreport,
    ← run_eq_audit hoptions hlist (hpaths ▸ List.cons_ne_nil path []) hprepare] at hstatus
  refine ⟨hstatus, entry, hreport, hentry.path, ?_⟩
  obtain ⟨position, hposition, hline, hcolumn⟩ := hentry.place
  have hfirst : Source.position "cdk-focus-trap" 0 = .ok ⟨1, 1⟩ := by decide +kernel
  obtain rfl := Except.ok.inj (hfirst.symm.trans hposition)
  have hstart : entry.start = 0 := hentry.start
  have hstop : entry.stop = 14 := hentry.stop
  rw [hreport]
  simp only [Report.numbers, ReportEntry.numbers, List.flatMap_cons, List.flatMap_nil, hstart, hstop, hline,
    hcolumn, Option.toList_some, List.append_nil, List.singleton_append, List.forall_mem_cons]
  exact ⟨isTooLong_of_le (by decide), isTooLong_of_le (by decide), isTooLong_of_le (by decide),
    isTooLong_of_le (by decide), isTooLong_of_le (by decide), List.forall_mem_nil _⟩

/-- A path with one colon is read back. -/
theorem run_output_decodes_one_colon :
    let files : FileSystem := ⟨.directory [("a:b.html", .file (Utf8.encode "cdk-focus-trap"))], ⟨"/", []⟩⟩
    (run files ["a:b.html", "--format", "json"]).report.entries ≠ [] ∧
      Report.decode (run files ["a:b.html", "--format", "json"]).output =
        .ok (run files ["a:b.html", "--format", "json"]).report := by
  intro files
  let options : Options := { paths := [⟨[], ["a:b.html"]⟩], format := some .json }
  have hoptions : Options.ofArguments ["a:b.html", "--format", "json"] = .ok options := rfl
  have hprepare : prepare files options = .ok ({}, Rule.builtin) := prepare_of_nothing_disabled rfl rfl
  have hnode : files.node? ⟨[], ["a:b.html"]⟩ = .ok (some (.file (Utf8.encode "cdk-focus-trap"))) := rfl
  have htext : files.readText ⟨[], ["a:b.html"]⟩ = .ok "cdk-focus-trap" := by decide +kernel
  obtain ⟨hstatus, entry, hreport, hpath, hnumbers⟩ :=
    run_selector_alone hoptions rfl rfl hprepare hnode (by decide) htext
  obtain ⟨shown, _, _, _, _, hkept⟩ :=
    run_output_decodes hoptions rfl hprepare rfl hstatus (by decide) hnumbers
  refine ⟨hreport ▸ List.cons_ne_nil entry [], hkept ?_⟩
  rw [hreport, List.forall_mem_singleton, hpath]
  intro path hmem
  obtain rfl := Option.some.inj hmem
  decide

/-- A path with an emoji code is not. -/
theorem run_output_changes_coded_path :
    let files : FileSystem := ⟨.directory [("a:x:.html", .file (Utf8.encode "cdk-focus-trap"))], ⟨"/", []⟩⟩
    ∃ entry : ReportEntry, (run files ["a:x:.html", "--format", "json"]).status = .ok statusFound ∧
      (run files ["a:x:.html", "--format", "json"]).report = ⟨1, [entry]⟩ ∧ entry.path = some "a:x:.html" ∧
      Report.decode (run files ["a:x:.html", "--format", "json"]).output =
        .ok ⟨1, [{ entry with path := some "a❌.html" }]⟩ ∧
      Report.decode (run files ["a:x:.html", "--format", "json"]).output ≠
        .ok (run files ["a:x:.html", "--format", "json"]).report := by
  intro files
  let options : Options := { paths := [⟨[], ["a:x:.html"]⟩], format := some .json }
  have hoptions : Options.ofArguments ["a:x:.html", "--format", "json"] = .ok options := rfl
  have hprepare : prepare files options = .ok ({}, Rule.builtin) := prepare_of_nothing_disabled rfl rfl
  have hnode : files.node? ⟨[], ["a:x:.html"]⟩ = .ok (some (.file (Utf8.encode "cdk-focus-trap"))) := rfl
  have htext : files.readText ⟨[], ["a:x:.html"]⟩ = .ok "cdk-focus-trap" := by decide +kernel
  obtain ⟨hstatus, entry, hreport, hpath, hnumbers⟩ :=
    run_selector_alone hoptions rfl rfl hprepare hnode (by decide) htext
  have hplain := colon_not_mem_of_mem_report hoptions rfl hprepare
  choose shown hshown using Json.exists_written_replaceCodes
  obtain ⟨_, hdecode⟩ := Report.decode_untaggedLine hshown hplain hnumbers
  rw [← output_run_json hoptions rfl hprepare rfl hstatus (by decide)] at hdecode
  have hcross : shown "a:x:.html" = "a❌.html" := by
    have hreplaced : Emoji.replaceCodes (Json.written "a:x:.html") = Json.written "a❌.html" := by decide +kernel
    exact Json.written_inj.mp ((hshown _).trans hreplaced)
  have hchanged : Report.decode (run files ["a:x:.html", "--format", "json"]).output =
      .ok ⟨1, [{ entry with path := some "a❌.html" }]⟩ := by
    rw [hdecode, hreport, Report.mapPaths, List.map_singleton, ReportEntry.mapPath, hpath]
    exact congrArg (fun path => Except.ok (⟨1, [{ entry with path := some path }]⟩ : Report)) hcross
  refine ⟨entry, hstatus, hreport, hpath, hchanged, ?_⟩
  rw [hchanged, hreport]
  intro hsame
  have hentries := congrArg Report.entries (Except.ok.inj hsame)
  have hpaths := congrArg ReportEntry.path (List.singleton_inj.mp hentries)
  rw [hpath] at hpaths
  exact absurd (Option.some.inj hpaths) (by decide)

end CommandLine

end TemplateAudit
