import TemplateAudit.Proofs.Audit.Report
import TemplateAudit.Proofs.CommandLine.Preparation

namespace TemplateAudit.CommandLine

variable {files : FileSystem} {options : Options} {settings : Settings} {rules : List Rule}

/-- The last line of a text report has nothing to which a console gives a meaning. -/
theorem taggedLine_summary (report : Report) :
    Console.taggedLine (summary report) = .ok (summary report ++ "\n") := by
  have hdigits : ∀ n, ∀ c ∈ Text.ofNat n, (Console.isInert c && c != ']') = true := fun n c hc =>
    Text.of_isDigit (motive := fun c => (Console.isInert c && c != ']') = true) (by decide)
      (Text.isDigit_of_mem_ofNat hc)
  have hfiles : ∀ c ∈ Text.ofInt report.files, (Console.isInert c && c != ']') = true := by
    cases report.files with
    | ofNat n => exact hdigits n
    | negSucc n => exact List.forall_mem_cons.mpr ⟨by decide, hdigits (n + 1)⟩
  have hall : ∀ c ∈ summary report, (Console.isInert c && c != ']') = true := by
    simp only [summary, List.forall_mem_append]
    exact ⟨⟨⟨hdigits _, List.all_eq_true.mp (by decide)⟩, hfiles⟩, List.all_eq_true.mp (by decide)⟩
  refine taggedLine_of_isInert (fun c hc => (Bool.and_eq_true_iff.mp (hall c hc)).1) fun hclose => ?_
  exact absurd (hall _ hclose) (by decide)

/-- The last piece of output of a complete audit. -/
def lastLine (report : Report) : ReportFormat → Text
  | .json => Console.untaggedLine report.encode
  | .text => summary report ++ "\n"

/-- No report keeps the last piece of output from being printed. -/
theorem closing_eq (format : ReportFormat) (report : Report) :
    closing format report = .ok (lastLine report format) := by
  cases format with
  | json => rfl
  | text =>
    rw [closing, taggedLine_summary]
    rfl

/-- What the audit of a run finds. -/
def audited (files : FileSystem) (options : Options) (settings : Settings) (rules : List Rule) : Audited :=
  files.auditPaths ⟨rules, options.format.getD settings.format, options.showSource⟩ options.paths

/-- The result of a run that is carried out. -/
theorem audit_of_complete (h : (audited files options settings rules).stop = none) :
    (audit files options settings rules).status =
        .ok (statusOf (audited files options settings rules).findings.report) ∧
      (audit files options settings rules).output =
        (audited files options settings rules).findings.output ++
          lastLine (audited files options settings rules).findings.report
            (options.format.getD settings.format) := by
  unfold audited at h ⊢
  simp only [audit, h, closing_eq, ending]
  exact ⟨trivial, trivial⟩

theorem report_ending (findings : Findings) (status : Nat) (last : Except Crash Text) :
    (ending findings status last).report = findings.report := by
  cases last <;> rfl

theorem report_audit : (audit files options settings rules).report =
    (audited files options settings rules).findings.report := by
  simp only [audit, audited]
  split <;> exact report_ending _ _ _

/-- Only a complete audit ends with another status than that of failure. -/
theorem complete_of_status {status : Nat}
    (hstatus : (audit files options settings rules).status = .ok status) (h : status ≠ statusFailed) :
    (audited files options settings rules).stop = none := by
  cases hstop : (audited files options settings rules).stop with
  | none => rfl
  | some stop =>
    unfold audited at hstop
    simp only [audit, hstop] at hstatus
    cases hline : stopLine stop with
    | error crash =>
      rw [hline] at hstatus
      cases hstatus
    | ok line =>
      rw [hline] at hstatus
      exact absurd (Except.ok.inj hstatus).symm h

section Run

variable {arguments : List Text} (hoptions : Options.ofArguments arguments = .ok options)
  (hlist : options.listRules = false)

include hoptions hlist

/-- A prepared run with paths is an audit. -/
theorem run_eq_audit (hpaths : options.paths ≠ [])
    (hprepare : prepare files options = .ok (settings, rules)) :
    run files arguments = audit files options settings rules := by
  have hpaths' : options.paths.isEmpty = false := by simpa using hpaths
  simp only [run, hoptions, runOptions, hlist, hpaths', hprepare]
  rfl

/-- The report of a run is that of its audit, also if there is nothing to audit. -/
theorem report_run (hprepare : prepare files options = .ok (settings, rules)) :
    (run files arguments).report = (audited files options settings rules).findings.report := by
  by_cases hpaths : options.paths = []
  · simp [run, hoptions, runOptions, hlist, hpaths, audited, FileSystem.auditPaths, Audited.each,
      Audited.complete]
  · rw [run_eq_audit hoptions hlist hpaths hprepare, report_audit]

/-- A run that does not fail has paths, settings and rules. -/
theorem prepared_of_status {status : Nat} (hstatus : (run files arguments).status = .ok status)
    (h : status ≠ statusFailed) :
    options.paths ≠ [] ∧ ∃ settings rules, prepare files options = .ok (settings, rules) := by
  simp only [run, hoptions, runOptions, hlist, Bool.false_eq_true, if_false] at hstatus
  split at hstatus
  · exact absurd (Except.ok.inj hstatus).symm h
  · next hpaths =>
    refine ⟨by simpa using hpaths, ?_⟩
    split at hstatus
    · next error _ =>
      cases hline : preparationLine error with
      | error crash =>
        rw [hline] at hstatus
        cases hstatus
      | ok line =>
        rw [hline] at hstatus
        exact absurd (Except.ok.inj hstatus).symm h
    · next settings rules hprepare => exact ⟨settings, rules, hprepare⟩

/-- A run with all rules over a template file without closed tags reports where the selector stands. -/
theorem report_run_selector {path : Path} {content : Bytes} {text : Text} (hpaths : options.paths = [path])
    (hprepare : prepare files options = .ok (settings, Rule.builtin))
    (hnode : files.node? path = .ok (some (.file content)))
    (hsuffix : path.hasSuffix componentSuffixes = false) (htext : files.readText path = .ok text)
    (hclose : '>' ∉ text) :
    (audited files options settings Rule.builtin).stop = none ∧
      ∃ entries, (run files arguments).report = ⟨1, entries⟩ ∧
      List.Forall₂ (fun (offset : Nat) (entry : ReportEntry) =>
        entry.Describes
          ((Rule.focusTrapSelector.diagnose offset).locate (.external text (some path.text))) text)
        (text.occurrences Rule.focusTrapSelector.token) entries := by
  have hbuiltin : ∀ rule ∈ Rule.builtin, rule ∈ Rule.builtin := fun _ h => h
  obtain ⟨entries, ⟨found, hscan, hdescribed⟩, hstop, hreport⟩ :=
    FileSystem.auditPaths_template hbuiltin hnode hsuffix htext
  rw [← hpaths] at hstop hreport
  rw [scan_builtin_of_no_close hclose] at hscan
  obtain rfl := Except.ok.inj hscan
  refine ⟨hstop, entries, ?_, List.forall₂_map_left_iff.mp hdescribed⟩
  rw [report_run hoptions hlist hprepare]
  exact hreport

/-- Where the selector stands once, the run reports one entry. -/
theorem report_run_selector_once {path : Path} {content : Bytes} {text : Text} {offset : Nat}
    (hpaths : options.paths = [path]) (hprepare : prepare files options = .ok (settings, Rule.builtin))
    (hnode : files.node? path = .ok (some (.file content)))
    (hsuffix : path.hasSuffix componentSuffixes = false) (htext : files.readText path = .ok text)
    (hclose : '>' ∉ text) (honce : text.occurrences Rule.focusTrapSelector.token = [offset]) :
    (audited files options settings Rule.builtin).stop = none ∧
      ∃ entry : ReportEntry, (run files arguments).report = ⟨1, [entry]⟩ ∧
        entry.Describes
          ((Rule.focusTrapSelector.diagnose offset).locate (.external text (some path.text))) text := by
  obtain ⟨hstop, entries, hreport, hdescribed⟩ :=
    report_run_selector hoptions hlist hpaths hprepare hnode hsuffix htext hclose
  rw [honce] at hdescribed
  obtain ⟨entry, rest, hentry, hrest, rfl⟩ := List.forall₂_cons_left_iff.mp hdescribed
  obtain rfl := List.forall₂_nil_left_iff.mp hrest
  exact ⟨hstop, entry, hreport, hentry⟩

end Run

/-- A run that does not fail reports the files to which its paths lead and the diagnostics of the selected
    rules in their templates, in order, and its status tells whether there are any. With either format it
    ends with the same status and report; the last line of a text report has its numbers, and a JSON report
    is all that is printed. The report on two groups of paths is that on the first followed by that on the
    second. -/
theorem run_reports {arguments : List Text} {status : Nat}
    (hoptions : Options.ofArguments arguments = .ok options) (hlist : options.listRules = false)
    (hstatus : (run files arguments).status = .ok status) (hcarried : status ≠ statusFailed) :
    ∃ settings disabled rules,
      (∀ path ∈ options.config, Settings.load files path = .ok settings) ∧
      (options.config = none → settings = {}) ∧ options.disabled = disabled.map some ∧
      rules = Rule.builtin.filter (fun rule => !(settings.disabledRules ++ disabled).contains rule.name) ∧
      files.Reports rules options.paths (run files arguments).report ∧
      status = (if (run files arguments).report.entries = [] then statusClean else statusFound) ∧
      (∀ format other, Options.ofArguments other = .ok { options with format := some format } →
        (run files other).status = .ok status ∧ (run files other).report = (run files arguments).report ∧
        ∃ lines, (run files other).output = lines ++ lastLine (run files arguments).report format ∧
          (format = .json → lines = [])) ∧
      ∀ before after first second, options.paths = before ++ after →
        Options.ofArguments first = .ok { options with paths := before } →
        Options.ofArguments second = .ok { options with paths := after } →
        (run files arguments).report = (run files first).report.append (run files second).report := by
  obtain ⟨hpaths, settings, rules, hprepare⟩ := prepared_of_status hoptions hlist hstatus hcarried
  obtain ⟨hloaded, hdefault, disabled, hdisabled, hrules⟩ := prepare_eq_ok hprepare
  have hbuiltin := mem_builtin_of_prepare hprepare
  rw [run_eq_audit hoptions hlist hpaths hprepare] at hstatus
  have hcomplete := complete_of_status hstatus hcarried
  have hreport := report_run hoptions hlist hprepare
  have hstatusOf := Except.ok.inj (hstatus.symm.trans (audit_of_complete hcomplete).1)
  refine ⟨settings, disabled, rules, hloaded, hdefault, hdisabled, hrules, ?_, ?_, ?_, ?_⟩
  · rw [hreport]
    exact FileSystem.auditPaths_reports hbuiltin hcomplete
  · rw [hreport, hstatusOf, statusOf, Report.hasEntries]
    cases (audited files options settings rules).findings.report.entries <;> rfl
  · intro format other hother
    have hagrees : Audited.Agrees (audited files { options with format := some format } settings rules)
        (audited files options settings rules) :=
      files.auditPaths_agrees hbuiltin format _ options.showSource options.showSource options.paths
    have hprepare' : prepare files { options with format := some format } = .ok (settings, rules) := hprepare
    rw [run_eq_audit hother hlist hpaths hprepare', report_audit, hreport, hagrees.report, hstatusOf]
    obtain ⟨hstatus', houtput⟩ := audit_of_complete (hagrees.stop.trans hcomplete)
    rw [hagrees.report] at hstatus' houtput
    refine ⟨hstatus', rfl, _, houtput, ?_⟩
    rintro rfl
    exact files.output_auditPaths_json rules options.showSource options.paths
  · intro before after first second hsplit hfirst hsecond
    have hprepare' : ∀ paths, prepare files { options with paths := paths } = .ok (settings, rules) :=
      fun _ => hprepare
    rw [hreport, report_run hfirst hlist (hprepare' before), report_run hsecond hlist (hprepare' after)]
    unfold audited at hcomplete ⊢
    rw [hsplit] at hcomplete ⊢
    exact Audited.each_append hcomplete

/-- A file with a match and a directory with an empty template: both formats end with the same status and
    report the same, and so do the two paths one by one. -/
theorem run_reports_two_paths :
    let files : FileSystem :=
      ⟨.directory [("a.html", .file (Utf8.encode "cdk-focus-trap")),
        ("d", .directory [("b.html", .file []), ("c.ts", .file [])])], ⟨"/", []⟩⟩
    (run files ["a.html", "d"]).status = .ok statusFound ∧ (run files ["a.html", "d"]).report.files = 2 ∧
      (run files ["a.html", "d", "--format", "json"]).status = .ok statusFound ∧
      (run files ["a.html", "d", "--format", "json"]).report = (run files ["a.html", "d"]).report ∧
      (run files ["a.html", "d"]).report =
        (run files ["a.html"]).report.append (run files ["d"]).report := by
  intro files
  let options : Options := { paths := [⟨[], ["a.html"]⟩, ⟨[], ["d"]⟩] }
  have hoptions : Options.ofArguments ["a.html", "d"] = .ok options := rfl
  have hprepare : prepare files options = .ok ({}, Rule.builtin) := prepare_of_nothing_disabled rfl rfl
  have htext : files.readText ⟨[], ["a.html"]⟩ = .ok "cdk-focus-trap" := by decide +kernel
  have hempty : files.readText ⟨[], ["d", "b.html"]⟩ = .ok [] := by decide +kernel
  have hnodeBelow : files.node? ⟨[], ["d"]⟩ =
    .ok (some (.directory [("b.html", .file []), ("c.ts", .file [])])) := rfl
  have hwalk : (FileNode.directory [("b.html", .file []), ("c.ts", .file [])]).IsWalkable
      FileSystem.walkRoom ⟨[], ["d"]⟩ := (FileNode.obstacle?_eq_none_iff _).mp (by decide +kernel)
  have hbelow : files.templateFiles FileSystem.walkRoom ⟨[], ["d"]⟩ templateSuffixes =
      .ok [⟨[], ["d", "b.html"]⟩] := by
    have hunder : Path.filesUnder ⟨[], ["d"]⟩ templateSuffixes [("b.html", .file []), ("c.ts", .file [])] =
        [⟨[], ["d", "b.html"]⟩] := by decide +kernel
    rw [FileSystem.templateFiles_of_walkable hnodeBelow hwalk, hunder, List.mergeSort_singleton]
  have hnode : files.node? ⟨[], ["a.html"]⟩ = .ok (some (.file (Utf8.encode "cdk-focus-trap"))) := rfl
  have hsingle := FileSystem.templateFiles_of_file hnode FileSystem.walkRoom templateSuffixes
  have hcomplete : (audited files options {} Rule.builtin).stop = none := by
    refine Audited.each_complete (List.forall_mem_cons.mpr ⟨?_, List.forall_mem_singleton.mpr ?_⟩)
    · refine FileSystem.auditPath_complete (fun _ h => h) hnode hsingle ?_
      exact List.forall_mem_singleton.mpr ⟨_, FileSystem.loadTemplates_external (by decide) htext⟩
    · refine FileSystem.auditPath_complete (fun _ h => h) hnodeBelow hbelow ?_
      exact List.forall_mem_singleton.mpr ⟨_, FileSystem.loadTemplates_external (by decide) hempty⟩
  have hstatus := (audit_of_complete hcomplete).1
  rw [← run_eq_audit hoptions rfl (List.cons_ne_nil _ _) hprepare] at hstatus
  obtain ⟨settings, disabled, rules, _, _, _, _, hreports, hstatusEq, hformats, hsplit⟩ :=
    run_reports hoptions rfl hstatus (by unfold statusOf; split <;> decide)
  have hpair := hsplit [⟨[], ["a.html"]⟩] [⟨[], ["d"]⟩] ["a.html"] ["d"] rfl rfl rfl
  have hsome : (run files ["a.html", "d"]).report.entries ≠ [] := by
    let alone : Options := { options with paths := [⟨[], ["a.html"]⟩] }
    have hprepare' : prepare files alone = .ok ({}, Rule.builtin) := hprepare
    have halone : Options.ofArguments ["a.html"] = .ok alone := rfl
    have honce : Text.occurrences "cdk-focus-trap" Rule.focusTrapSelector.token = [0] := by decide +kernel
    obtain ⟨_, entry, hreport, _⟩ :=
      report_run_selector_once halone rfl rfl hprepare' hnode (by decide) htext (by decide) honce
    rw [hpair, hreport]
    exact List.cons_ne_nil entry _
  have htwo : (run files ["a.html", "d"]).report.files = 2 := by
    obtain ⟨visited, ⟨groups, hgroups, rfl⟩, hfiles, _⟩ := hreports
    obtain ⟨first, later, hfirst, hlater, rfl⟩ := List.forall₂_cons_left_iff.mp hgroups
    obtain ⟨second, _, hsecond, hnone, rfl⟩ := List.forall₂_cons_left_iff.mp hlater
    obtain rfl := List.forall₂_nil_left_iff.mp hnone
    have hfirstLength : first.length = 1 := by
      cases hfirst with
      | file _ => rfl
      | directory hdirectory _ _ _ => exact absurd (Except.ok.inj hdirectory) (by simp)
    have hsecondLength : second.length = 1 := by
      cases hsecond with
      | file hfile => exact absurd (Except.ok.inj hfile) (by simp)
      | directory hdirectory _ hall _ =>
        obtain rfl := FileNode.directory.inj (Except.ok.inj hdirectory)
        rw [hall.length_eq]
        decide
    rw [hfiles, List.flatten_cons, List.flatten_singleton, List.length_append, hfirstLength, hsecondLength]
    rfl
  rw [if_neg hsome] at hstatusEq
  rw [hstatusEq] at hstatus hformats
  have hjson : Options.ofArguments ["a.html", "d", "--format", "json"] =
    .ok { options with format := some .json } := rfl
  obtain ⟨hjsonStatus, hjsonReport, _⟩ := hformats .json _ hjson
  exact ⟨hstatus, htwo, hjsonStatus, hjsonReport, hpair⟩

end TemplateAudit.CommandLine
