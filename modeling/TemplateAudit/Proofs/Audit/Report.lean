import TemplateAudit.Proofs.Audit.Each
import TemplateAudit.Proofs.Component.Load
import TemplateAudit.Proofs.Files.Templates
import TemplateAudit.Proofs.Report.Header

namespace TemplateAudit

/-- The entry has the diagnostic, with its line and column in the source. -/
structure ReportEntry.Describes (entry : ReportEntry) (diagnostic : LocatedDiagnostic) (source : Text) :
    Prop where
  rule : entry.rule = diagnostic.rule
  path : entry.path = diagnostic.path
  start : entry.start = diagnostic.start
  stop : entry.stop = diagnostic.stop
  place : ∃ position, diagnostic.position source = .ok position ∧ entry.line = some ↑position.line ∧
    entry.column = some ↑position.column
  message : diagnostic.message.render .plain = .ok entry.message

/-- The entries are the diagnostics of the rules in the template, in order. -/
def TemplateSource.Enters (rules : List Rule) (template : TemplateSource) (entries : List ReportEntry) :
    Prop :=
  ∃ found, (scan template.fragment rules).value = .ok found ∧
    List.Forall₂ (fun diagnostic entry => entry.Describes diagnostic template.source) found entries

/-- The entries are those of the templates of the file, in order. -/
def FileSystem.Enters (files : FileSystem) (rules : List Rule) (path : Path)
    (entries : List ReportEntry) : Prop :=
  ∃ templates, files.Loads path templates ∧ Concatenates (TemplateSource.Enters rules) templates entries

/-- The report counts the files to which the paths lead, and has the entries of each of them, in order. -/
def FileSystem.Reports (files : FileSystem) (rules : List Rule) (paths : List Path) (report : Report) :
    Prop :=
  ∃ visited, Concatenates files.Visits paths visited ∧ report.files = visited.length ∧
    Concatenates (files.Enters rules) visited report.entries

/-- Diagnostics that can be entered are entered one after another. -/
theorem entriesOf_of_entered {source : Option Text} {entered : LocatedDiagnostic → ReportEntry → Prop}
    {diagnostics : List LocatedDiagnostic}
    (h : ∀ diagnostic ∈ diagnostics, ∃ entry, diagnostic.entry source = .ok entry ∧
      entered diagnostic entry) :
    ∃ entries, entriesOf source diagnostics = (entries, none) ∧
      List.Forall₂ entered diagnostics entries := by
  induction diagnostics with
  | nil => exact ⟨[], rfl, .nil⟩
  | cons diagnostic rest ih =>
    obtain ⟨⟨entry, hentry, hentered⟩, hrest⟩ := List.forall_mem_cons.mp h
    obtain ⟨entries, hentries, hlater⟩ := ih hrest
    refine ⟨entry :: entries, ?_, .cons hentered hlater⟩
    rw [entriesOf, hentry]
    simp only [hentries]

/-- A diagnostic with a position and a message has an entry, and that describes it. -/
theorem LocatedDiagnostic.exists_entry {diagnostic : LocatedDiagnostic} {source message : Text}
    {position : Position} (hposition : diagnostic.position source = .ok position)
    (hmessage : diagnostic.message.render .plain = .ok message) :
    ∃ entry, diagnostic.entry (some source) = .ok entry ∧ entry.Describes diagnostic source := by
  refine ⟨⟨diagnostic.rule, diagnostic.path, diagnostic.start, diagnostic.stop, some position.line,
    some position.column, message⟩, ?_, rfl, rfl, rfl, rfl, ⟨position, hposition, rfl, rfl⟩, hmessage⟩
  simp only [entry, hposition, hmessage, Except.mapError, Except.map, bind, Except.bind, pure, Except.pure,
    Option.map_some]

/-- An audit for JSON prints nothing on the way. -/
theorem FileSystem.output_auditPaths_json (files : FileSystem) (rules : List Rule) (showSource : Bool)
    (paths : List Path) : (files.auditPaths ⟨rules, .json, showSource⟩ paths).findings.output = [] := by
  have htemplate : ∀ template : TemplateSource,
      (template.audit ⟨rules, .json, showSource⟩).findings.output = [] := by
    intro template
    unfold TemplateSource.audit
    dsimp only [TemplateSource.print]
    split <;> rfl
  have hfile : ∀ path, (files.auditFile ⟨rules, .json, showSource⟩ path).findings.output = [] := by
    intro path
    unfold auditFile
    split
    · rfl
    · rfl
    · next templates _ => exact Audited.each_output_nil htemplate templates
  refine Audited.each_output_nil (fun path => ?_) paths
  unfold auditPath
  split
  · rfl
  · rfl
  · split
    · rfl
    · next found _ => exact Audited.each_output_nil hfile found

section Builtin

variable {rules : List Rule} (hrules : ∀ rule ∈ rules, rule ∈ Rule.builtin)

include hrules

/-- An audit of a template that is a part of its source comes to its end in every format, and all formats
    report the same. -/
theorem TemplateSource.audit_builtin {template : TemplateSource}
    (hpart : template.fragment.IsOf template.source) :
    ∃ entries, template.Enters rules entries ∧ ∀ format showSource,
      (template.audit ⟨rules, format, showSource⟩).stop = none ∧
        (template.audit ⟨rules, format, showSource⟩).findings.report = ⟨0, entries⟩ := by
  obtain ⟨base, _, hbase, _⟩ := hpart.drop_eq
  obtain ⟨found, hscan, hfound⟩ := scan_of_builtin hrules template.fragment
  have hheaders : ∀ diagnostic ∈ found, ∃ position message,
      diagnostic.position template.source = .ok position ∧ diagnostic.message.render .plain = .ok message ∧
        ∃ header, diagnostic.header (some template.source) = .ok header := by
    intro diagnostic hdiagnostic
    obtain ⟨rule, hrule, offset, _, rfl⟩ := hfound diagnostic hdiagnostic
    have hstart : 0 ≤ ((rule.diagnose offset).locate template.fragment).start := by
      rw [Rule.locate_diagnose rule offset hbase]
      exact Int.natCast_nonneg _
    obtain ⟨position, message, hposition, hmessage, _, hheader⟩ :=
      LocatedDiagnostic.exists_header (hrules rule hrule) rfl rfl hstart template.source
    exact ⟨position, message, hposition, hmessage, _, hheader⟩
  obtain ⟨entries, hentries, hdescribed⟩ := entriesOf_of_entered fun diagnostic hdiagnostic => by
    obtain ⟨position, message, hposition, hmessage, _⟩ := hheaders diagnostic hdiagnostic
    exact LocatedDiagnostic.exists_entry hposition hmessage
  refine ⟨entries, ⟨found, hscan, hdescribed⟩, fun format showSource => ?_⟩
  have hprinted : (template.print ⟨rules, format, showSource⟩ found).error = none := by
    cases format with
    | json => rfl
    | text =>
      have hprint : ∀ diagnostic ∈ found, ∃ text,
          diagnostic.print (some template.source) showSource = ⟨text, none⟩ ∧ True := by
        intro diagnostic hdiagnostic
        obtain ⟨position, message, hposition, _, header, hheader⟩ := hheaders diagnostic hdiagnostic
        obtain ⟨excerpt, hprint, _⟩ := LocatedDiagnostic.print_eq hposition hheader showSource
        exact ⟨_, hprint, trivial⟩
      obtain ⟨texts, _, hall⟩ := printDiagnostics_of_printed hprint
      rw [TemplateSource.print, hall]
  simp only [TemplateSource.audit, hscan, hprinted, hentries]
  exact ⟨rfl, trivial⟩

variable (files : FileSystem) (format format' : ReportFormat) (showSource showSource' : Bool)

/-- All formats agree on the templates of a file. -/
theorem FileSystem.auditFile_agrees (path : Path) :
    Audited.Agrees (files.auditFile ⟨rules, format, showSource⟩ path)
      (files.auditFile ⟨rules, format', showSource'⟩ path) := by
  unfold auditFile
  cases hload : files.loadTemplates path with
  | error error => cases error <;> exact Audited.Agrees.refl _
  | ok templates =>
    refine (Audited.each_agrees fun template htemplate => ?_).after rfl
    obtain ⟨source, hread⟩ := (loads_of_loadTemplates hload).isRead template htemplate
    obtain ⟨entries, _, haudit⟩ := TemplateSource.audit_builtin hrules hread.part
    obtain ⟨hstop, hreport⟩ := haudit format showSource
    obtain ⟨hstop', hreport'⟩ := haudit format' showSource'
    exact ⟨hstop.trans hstop'.symm, hreport.trans hreport'.symm⟩

/-- All formats agree on the files below paths. -/
theorem FileSystem.auditPaths_agrees (paths : List Path) :
    Audited.Agrees (files.auditPaths ⟨rules, format, showSource⟩ paths)
      (files.auditPaths ⟨rules, format', showSource'⟩ paths) := by
  refine Audited.each_agrees fun path _ => ?_
  unfold auditPath
  cases hnode : files.node? path with
  | error error => exact Audited.Agrees.refl _
  | ok node =>
    cases node with
    | none => exact Audited.Agrees.refl _
    | some node =>
      cases hfound : files.templateFiles walkRoom path templateSuffixes with
      | error error => exact Audited.Agrees.refl _
      | ok found =>
        exact Audited.each_agrees fun file _ =>
          files.auditFile_agrees hrules format format' showSource showSource' file

variable {files format showSource}

/-- A file that can be loaded is audited to its end. -/
theorem FileSystem.auditFile_complete {path : Path} {templates : List TemplateSource}
    (hload : files.loadTemplates path = .ok templates) :
    (files.auditFile ⟨rules, format, showSource⟩ path).stop = none := by
  rw [auditFile, hload]
  refine Audited.each_complete fun template htemplate => ?_
  obtain ⟨source, hread⟩ := (loads_of_loadTemplates hload).isRead template htemplate
  obtain ⟨entries, _, haudit⟩ := TemplateSource.audit_builtin hrules hread.part
  exact (haudit format showSource).1

/-- A path is audited to its end if it leads somewhere and every file there can be loaded. -/
theorem FileSystem.auditPath_complete {path : Path} {node : FileNode} {found : List Path}
    (hnode : files.node? path = .ok (some node))
    (hfound : files.templateFiles walkRoom path templateSuffixes = .ok found)
    (hload : ∀ file ∈ found, ∃ templates, files.loadTemplates file = .ok templates) :
    (files.auditPath ⟨rules, format, showSource⟩ path).stop = none := by
  rw [auditPath, hnode, hfound]
  refine Audited.each_complete fun file hfile => ?_
  obtain ⟨templates, htemplates⟩ := hload file hfile
  exact auditFile_complete hrules htemplates

/-- What is entered for a template describes a match of one of the rules. -/
theorem TemplateSource.Enters.describes_match {template : TemplateSource} {entries : List ReportEntry}
    (h : template.Enters rules entries) : ∀ entry ∈ entries,
      ∃ rule ∈ rules, ∃ offset : Nat, rule.MatchesAt template.fragment.text offset ∧
        entry.Describes ((rule.diagnose offset).locate template.fragment) template.source := by
  obtain ⟨found, hscan, hdescribed⟩ := h
  obtain ⟨found', hscan', hfound⟩ := scan_of_builtin hrules template.fragment
  obtain rfl := Except.ok.inj (hscan.symm.trans hscan')
  clear hscan hscan'
  induction hdescribed with
  | nil => exact List.forall_mem_nil _
  | @cons diagnostic entry found entries hfirst _ ih =>
    obtain ⟨⟨rule, hrule, offset, hmatches, rfl⟩, hlater⟩ := List.forall_mem_cons.mp hfound
    exact List.forall_mem_cons.mpr ⟨⟨rule, hrule, offset, hmatches, hfirst⟩, ih hlater⟩

/-- What an audit of paths reports, complete or not, describes a match in a template of some file. -/
theorem FileSystem.describes_match_of_mem_auditPaths {paths : List Path} {entry : ReportEntry}
    (h : entry ∈ (files.auditPaths ⟨rules, format, showSource⟩ paths).findings.report.entries) :
    ∃ (template : TemplateSource) (path : Path), template.IsRead files path ∧
      ∃ rule ∈ rules, ∃ offset : Nat, rule.MatchesAt template.fragment.text offset ∧
        entry.Describes ((rule.diagnose offset).locate template.fragment) template.source := by
  obtain ⟨start, _, h⟩ := Audited.mem_each_entries h
  unfold auditPath at h
  split at h
  · exact absurd h List.not_mem_nil
  · exact absurd h List.not_mem_nil
  · split at h
    · exact absurd h List.not_mem_nil
    · obtain ⟨file, _, h⟩ := Audited.mem_each_entries h
      unfold auditFile at h
      split at h
      · exact absurd h List.not_mem_nil
      · exact absurd h List.not_mem_nil
      · next templates hload =>
        rw [Audited.report_after] at h
        obtain h | h := List.mem_append.mp h
        · exact absurd h List.not_mem_nil
        · obtain ⟨template, htemplate, h⟩ := Audited.mem_each_entries h
          obtain ⟨path, hread⟩ := (loads_of_loadTemplates hload).isRead template htemplate
          obtain ⟨entries, henters, haudit⟩ := TemplateSource.audit_builtin hrules hread.part
          rw [(haudit format showSource).2] at h
          exact ⟨template, path, hread, henters.describes_match hrules entry h⟩

/-- A file that is audited to its end counts once and has the entries of its templates. -/
theorem FileSystem.auditFile_reports {path : Path}
    (h : (files.auditFile ⟨rules, format, showSource⟩ path).stop = none) :
    (files.auditFile ⟨rules, format, showSource⟩ path).findings.report.files = 1 ∧
      files.Enters rules path (files.auditFile ⟨rules, format, showSource⟩ path).findings.report.entries := by
  unfold auditFile at h ⊢
  cases hload : files.loadTemplates path with
  | error error =>
    rw [hload] at h
    cases error <;> cases h
  | ok templates =>
    rw [hload] at h
    have hloads := loads_of_loadTemplates hload
    obtain ⟨parts, hparts, hreport⟩ := Audited.each_report
      (fun template report => report.files = 0 ∧ template.Enters rules report.entries) h
      fun template htemplate _ => by
        obtain ⟨source, hread⟩ := hloads.isRead template htemplate
        obtain ⟨entries, henters, haudit⟩ := TemplateSource.audit_builtin hrules hread.part
        rw [(haudit format showSource).2]
        exact ⟨rfl, henters⟩
    obtain ⟨hsum, hentries⟩ := concatenates_of_reports hparts
    simp only [Audited.report_after, hreport, hsum]
    exact ⟨by simp [Report.append, Findings.visited], templates, hloads, hentries⟩

/-- The report on a path that is audited to its end. -/
theorem FileSystem.auditPath_reports {path : Path}
    (h : (files.auditPath ⟨rules, format, showSource⟩ path).stop = none) :
    ∃ visited, files.Visits path visited ∧
      (files.auditPath ⟨rules, format, showSource⟩ path).findings.report.files = visited.length ∧
      Concatenates (files.Enters rules) visited
        (files.auditPath ⟨rules, format, showSource⟩ path).findings.report.entries := by
  unfold auditPath at h ⊢
  cases hnode : files.node? path with
  | error error =>
    rw [hnode] at h
    cases h
  | ok node =>
    cases node with
    | none =>
      rw [hnode] at h
      cases h
    | some node =>
      cases hfound : files.templateFiles walkRoom path templateSuffixes with
      | error error =>
        rw [hnode, hfound] at h
        cases h
      | ok visited =>
        rw [hnode, hfound] at h
        obtain ⟨parts, hparts, hreport⟩ := Audited.each_report
          (fun file report => report.files = 1 ∧ files.Enters rules file report.entries) h
          fun file _ hfile => auditFile_reports hrules hfile
        obtain ⟨hsum, hentries⟩ := concatenates_of_reports hparts
        refine ⟨visited, visits_of_templateFiles hnode hfound, ?_, ?_⟩
        · simp only [hreport, hsum, Int.one_mul]
        · simp only [hreport]
          exact hentries

/-- An audit of paths that comes to its end reports what they lead to. -/
theorem FileSystem.auditPaths_reports {paths : List Path}
    (h : (files.auditPaths ⟨rules, format, showSource⟩ paths).stop = none) :
    files.Reports rules paths (files.auditPaths ⟨rules, format, showSource⟩ paths).findings.report := by
  obtain ⟨parts, hparts, hreport⟩ := Audited.each_report
    (fun path report => ∃ visited, files.Visits path visited ∧ report.files = visited.length ∧
      Concatenates (files.Enters rules) visited report.entries) h
    fun path _ hpath => auditPath_reports hrules hpath
  rw [auditPaths, hreport]
  clear hreport h
  induction hparts with
  | nil => exact ⟨[], ⟨[], .nil, rfl⟩, rfl, [], .nil, rfl⟩
  | @cons path report paths reports hfirst _ ih =>
    obtain ⟨visited, hvisits, hfiles, hentries⟩ := hfirst
    obtain ⟨later, ⟨groups, hgroups, hlater⟩, hcount, hrest⟩ := ih
    refine ⟨visited ++ later, ⟨visited :: groups, .cons hvisits hgroups, ?_⟩, ?_, ?_⟩
    · rw [hlater, List.flatten_cons]
    · simp only [List.map_cons, List.sum_cons] at hcount ⊢
      rw [hcount, hfiles, List.length_append, Int.natCast_add]
    · simp only [List.map_cons, List.flatten_cons]
      exact hentries.append hrest

/-- A template file is audited to its end, and the report has the entries of its text. -/
theorem FileSystem.auditPaths_template {path : Path} {content : Bytes} {text : Text}
    (hnode : files.node? path = .ok (some (.file content)))
    (hsuffix : path.hasSuffix componentSuffixes = false) (htext : files.readText path = .ok text) :
    ∃ entries, TemplateSource.Enters rules ⟨.external text (some path.text), text⟩ entries ∧
      (files.auditPaths ⟨rules, format, showSource⟩ [path]).stop = none ∧
      (files.auditPaths ⟨rules, format, showSource⟩ [path]).findings.report = ⟨1, entries⟩ := by
  obtain ⟨entries, henters, haudit⟩ := TemplateSource.audit_builtin hrules (isRead_external htext).part
  obtain ⟨hstop, hreport⟩ := haudit format showSource
  have hfound := templateFiles_of_file hnode walkRoom templateSuffixes
  have hfile : Audited.Agrees (files.auditFile ⟨rules, format, showSource⟩ path)
      (.after .visited (TemplateSource.audit ⟨rules, format, showSource⟩
        ⟨.external text (some path.text), text⟩)) := by
    rw [auditFile, loadTemplates_external hsuffix htext]
    exact (Audited.each_singleton _).after rfl
  have hpath : Audited.Agrees (files.auditPath ⟨rules, format, showSource⟩ path)
      (files.auditFile ⟨rules, format, showSource⟩ path) := by
    rw [auditPath, hnode, hfound]
    exact Audited.each_singleton path
  have hpaths : Audited.Agrees (files.auditPaths ⟨rules, format, showSource⟩ [path]) _ :=
    (Audited.each_singleton path).trans (hpath.trans hfile)
  refine ⟨entries, henters, hpaths.stop.trans hstop, ?_⟩
  rw [hpaths.report, Audited.report_after, hreport]
  simp [Report.append, Findings.visited]

end Builtin

end TemplateAudit
