import TemplateAudit.Proofs.Audit.Stop
import TemplateAudit.Proofs.CommandLine.Complaint
import TemplateAudit.Proofs.CommandLine.Run

namespace TemplateAudit.CommandLine

/-- All rules to leave out are named, and these are names of built-in rules. -/
def Options.DisablesBuiltin (options : Options) : Prop :=
  ∀ name ∈ options.disabled, ∃ rule ∈ Rule.builtin, name = some rule.name

/-- The built-in rules that are not to be left out. -/
def Options.rules (options : Options) : List Rule :=
  Rule.builtin.filter fun rule => !options.disabled.contains (some rule.name)

/-- Why a run with paths fails: the files visited before, and the complaint. -/
inductive Obstructed (files : FileSystem) (options : Options) : List Path → Text → Prop where
  | unknownRule {disabled : List Text} (hdisabled : options.disabled = disabled.map some)
      (hunknown : ∃ name ∈ disabled, ∀ rule ∈ Rule.builtin, rule.name ≠ name) :
      Obstructed files options []
        (StyleTag.evened (UnknownRules.message ⟨Rule.unknownNames disabled Rule.builtin⟩))
  | stopped {visited : List Path} {stop : AuditStop} {complaint : Text} (hdisabled : options.DisablesBuiltin)
      (hstop : files.StopsAt options.paths visited stop) (hcomplaint : complaint? stop = some complaint) :
      Obstructed files options visited complaint

/-- Why a run with paths breaks off. -/
inductive BreaksOff (files : FileSystem) (options : Options) : Crash → Prop where
  | unnamedRule (hunnamed : none ∈ options.disabled) : BreaksOff files options .unnamedRule
  | stopped {visited : List Path} {crash : Crash} (hdisabled : options.DisablesBuiltin)
      (hstop : files.StopsAt options.paths visited (.crash crash)) : BreaksOff files options crash

/-- A run that fails prints its complaint at the end and nothing elsewhere. Before the complaint there is
    nothing in JSON, and in text there are the diagnostics of the visited files. -/
structure RunResult.Fails (result : RunResult) (files : FileSystem) (options : Options)
    (visited : List Path) (complaint : Text) : Prop where
  output : ∃ printed, result.output = printed ++ errorLine complaint ∧
    (options.format.getD .text = .json → printed = []) ∧
    (options.format.getD .text = .text →
      Concatenates (files.Prints options.rules options.showSource) visited printed)
  standardOutput : result.standardOutput = []
  standardError : result.standardError = []

variable {files : FileSystem} {options : Options} {settings : Settings} {rules : List Rule}

/-- An audit stops with a complaint or with a crash. -/
theorem complaint?_cases (stop : AuditStop) :
    (∃ complaint, complaint? stop = some complaint) ∨ ∃ crash, stop = .crash crash := by
  cases stop with
  | missing path => exact .inl ⟨_, rfl⟩
  | unreadable path error => exact .inl ⟨_, rfl⟩
  | crash crash => exact .inr ⟨crash, rfl⟩

theorem mem_builtin_of_mem_rules : ∀ rule ∈ options.rules, rule ∈ Rule.builtin :=
  fun _ hrule => (List.mem_filter.mp hrule).1

theorem disablesBuiltin_of_known {disabled : List Text} (hdisabled : options.disabled = disabled.map some)
    (hknown : ∀ name ∈ disabled, ∃ rule ∈ Rule.builtin, rule.name = name) : options.DisablesBuiltin := by
  rw [Options.DisablesBuiltin, hdisabled, List.forall_mem_map]
  intro name hname
  obtain ⟨rule, hrule, rfl⟩ := hknown name hname
  exact ⟨rule, hrule, rfl⟩

/-- Without a settings file, only the rules to leave out keep an audit from beginning. -/
theorem prepare_cases (files : FileSystem) (hconfig : options.config = none) :
    none ∈ options.disabled ∧ prepare files options = .error .unnamedRule ∨
      (∃ disabled, options.disabled = disabled.map some ∧
        (∃ name ∈ disabled, ∀ rule ∈ Rule.builtin, rule.name ≠ name) ∧
        prepare files options = .error (.rules ⟨Rule.unknownNames disabled Rule.builtin⟩)) ∨
      options.DisablesBuiltin ∧ prepare files options = .ok ({}, options.rules) := by
  have hloaded : loaded files options = .ok {} := by rw [loaded, hconfig]
  rw [prepare_of_loaded hloaded]
  obtain hunnamed | ⟨disabled, hdisabled, hunknown | ⟨hknown, hrules⟩⟩ := selected_cases options {}
  · exact .inl hunnamed
  · exact .inr (.inl ⟨disabled, hdisabled, hunknown⟩)
  · have hkept : options.rules =
        Rule.builtin.filter fun rule => !(({} : Settings).disabledRules ++ disabled).contains rule.name := by
      rw [Options.rules, hdisabled]
      simp
    rw [hrules, hkept]
    exact .inr (.inr ⟨disablesBuiltin_of_known hdisabled hknown, rfl⟩)

theorem not_unnamed_of_map {disabled : List Text} (h : options.disabled = disabled.map some) :
    none ∉ options.disabled := by
  simp [h]

theorem Options.DisablesBuiltin.not_unnamed (h : options.DisablesBuiltin) : none ∉ options.disabled := by
  intro hmem
  obtain ⟨rule, _, hrule⟩ := h none hmem
  cases hrule

theorem Options.DisablesBuiltin.not_unknown (h : options.DisablesBuiltin) {disabled : List Text}
    (hdisabled : options.disabled = disabled.map some) :
    ¬ ∃ name ∈ disabled, ∀ rule ∈ Rule.builtin, rule.name ≠ name := by
  rintro ⟨name, hname, hunknown⟩
  obtain ⟨rule, hrule, heq⟩ := h (some name) (hdisabled ▸ List.mem_map_of_mem hname)
  exact hunknown rule hrule (Option.some.inj heq).symm

theorem prepare_of_disablesBuiltin (hconfig : options.config = none) (h : options.DisablesBuiltin) :
    prepare files options = .ok ({}, options.rules) := by
  obtain ⟨hunnamed, _⟩ | ⟨disabled, hdisabled, hunknown, _⟩ | ⟨_, hprepare⟩ := prepare_cases files hconfig
  · exact absurd hunnamed h.not_unnamed
  · exact absurd hunknown (h.not_unknown hdisabled)
  · exact hprepare

/-- The result of a run whose audit stops and can say why. -/
theorem audit_of_complaint {stop : AuditStop} {complaint : Text}
    (hstop : (audited files options settings rules).stop = some stop)
    (hcomplaint : complaint? stop = some complaint) :
    (audit files options settings rules).status = .ok statusFailed ∧
      (audit files options settings rules).output =
        (audited files options settings rules).findings.output ++ errorLine complaint ∧
      (audit files options settings rules).standardOutput = [] ∧
      (audit files options settings rules).standardError = [] := by
  unfold audited at hstop ⊢
  simp only [audit, hstop, stopLine_of_complaint? hcomplaint, ending]
  exact ⟨trivial, trivial, trivial, trivial⟩

theorem audit_of_crash {crash : Crash}
    (hstop : (audited files options settings rules).stop = some (.crash crash)) :
    (audit files options settings rules).status = .error crash := by
  unfold audited at hstop
  simp only [audit, hstop, stopLine, ending]

theorem statusOf_ne_failed (report : Report) : statusOf report ≠ statusFailed := by
  unfold statusOf
  split <;> decide

/-- Where the audit of a run stops, and what has been printed until then. -/
theorem stopsAt_of_audited {stop : AuditStop} (hrules : ∀ rule ∈ rules, rule ∈ Rule.builtin)
    (hstop : (audited files options settings rules).stop = some stop) :
    ∃ visited, files.StopsAt options.paths visited stop ∧
      (options.format.getD settings.format = .json →
        (audited files options settings rules).findings.output = []) ∧
      (options.format.getD settings.format = .text →
        Concatenates (files.Prints rules options.showSource) visited
          (audited files options settings rules).findings.output) := by
  unfold audited at hstop ⊢
  have hagrees := files.auditPaths_agrees hrules .text (options.format.getD settings.format)
    options.showSource options.showSource options.paths
  obtain ⟨visited, hstopsAt, hprinted⟩ := FileSystem.exists_stopsAt hrules (hagrees.stop.trans hstop)
  refine ⟨visited, hstopsAt, fun hjson => ?_, fun htext => ?_⟩
  · rw [hjson]
    exact files.output_auditPaths_json rules options.showSource options.paths
  · rw [htext]
    exact hprinted

section Run

variable {arguments : List Text} (hoptions : Options.ofArguments arguments = .ok options)
  (hlist : options.listRules = false)

include hoptions hlist

theorem run_of_no_paths (hpaths : options.paths = []) :
    run files arguments = { status := .ok statusFailed, standardError := usage } := by
  simp only [run, hoptions, runOptions, hlist, hpaths]
  rfl

theorem run_of_unprepared (hpaths : options.paths ≠ []) {error : PreparationError}
    (hprepare : prepare files options = .error error) :
    run files arguments = ending .empty statusFailed (preparationLine error) := by
  have hpaths' : options.paths.isEmpty = false := by simpa using hpaths
  simp only [run, hoptions, runOptions, hlist, hpaths', hprepare]
  rfl

/-- The result of a run that is to leave out a rule that there is not. -/
theorem run_of_unknownRule (hpaths : options.paths ≠ []) {unknown : UnknownRules}
    (hprepare : prepare files options = .error (.rules unknown)) :
    run files arguments =
      { status := .ok statusFailed, output := errorLine (StyleTag.evened unknown.message) } := by
  rw [run_of_unprepared hoptions hlist hpaths hprepare, preparationLine, StyleTag.escape_eq_protect,
    complaintLine_protect]
  rfl

variable (hpaths : options.paths ≠ []) (hconfig : options.config = none)

include hpaths hconfig

/-- A run that is obstructed fails. -/
theorem status_of_obstructed {visited : List Path} {complaint : Text}
    (h : Obstructed files options visited complaint) :
    (run files arguments).status = .ok statusFailed := by
  cases h with
  | unknownRule hdisabled hunknown =>
    obtain ⟨hunnamed, _⟩ | ⟨disabled, _, _, hprepare⟩ | ⟨hknown, _⟩ := prepare_cases files hconfig
    · exact absurd hunnamed (not_unnamed_of_map hdisabled)
    · rw [run_of_unknownRule hoptions hlist hpaths hprepare]
    · exact absurd hunknown (hknown.not_unknown hdisabled)
  | stopped hdisabled hstop hcomplaint =>
    rw [run_eq_audit hoptions hlist hpaths (prepare_of_disablesBuiltin hconfig hdisabled)]
    exact (audit_of_complaint (hstop.stop_eq mem_builtin_of_mem_rules) hcomplaint).1

/-- A run without words for its obstacle breaks off. -/
theorem status_of_breaksOff {crash : Crash} (h : BreaksOff files options crash) :
    (run files arguments).status = .error crash := by
  cases h with
  | unnamedRule hunnamed =>
    obtain ⟨_, hprepare⟩ | ⟨disabled, hdisabled, _⟩ | ⟨hknown, _⟩ := prepare_cases files hconfig
    · rw [run_of_unprepared hoptions hlist hpaths hprepare]
      rfl
    · exact absurd hunnamed (not_unnamed_of_map hdisabled)
    · exact absurd hunnamed hknown.not_unnamed
  | stopped hdisabled hstop =>
    rw [run_eq_audit hoptions hlist hpaths (prepare_of_disablesBuiltin hconfig hdisabled)]
    exact audit_of_crash (hstop.stop_eq mem_builtin_of_mem_rules)

/-- A run with paths is carried out, fails because it is obstructed, or breaks off. -/
theorem run_cases (files : FileSystem) :
    (∃ status, (run files arguments).status = .ok status ∧ status ≠ statusFailed) ∨
      (∃ visited complaint, Obstructed files options visited complaint ∧
        (run files arguments).Fails files options visited complaint) ∨
      ∃ crash, BreaksOff files options crash := by
  obtain ⟨hunnamed, _⟩ | ⟨disabled, hdisabled, hunknown, hprepare⟩ | ⟨hknown, hprepare⟩ :=
    prepare_cases files hconfig
  · exact .inr (.inr ⟨_, .unnamedRule hunnamed⟩)
  · refine .inr (.inl ⟨_, _, .unknownRule hdisabled hunknown, ?_⟩)
    rw [run_of_unknownRule hoptions hlist hpaths hprepare]
    exact ⟨⟨[], rfl, fun _ => rfl, fun _ => ⟨[], .nil, rfl⟩⟩, rfl, rfl⟩
  · rw [run_eq_audit hoptions hlist hpaths hprepare]
    cases hstop : (audited files options {} options.rules).stop with
    | none => exact .inl ⟨_, (audit_of_complete hstop).1, statusOf_ne_failed _⟩
    | some stop =>
      obtain ⟨visited, hstopsAt, hjson, htext⟩ := stopsAt_of_audited mem_builtin_of_mem_rules hstop
      obtain ⟨complaint, hcomplaint⟩ | ⟨crash, rfl⟩ := complaint?_cases stop
      · obtain ⟨_, houtput, hstandardOutput, hstandardError⟩ := audit_of_complaint hstop hcomplaint
        exact .inr (.inl ⟨visited, complaint, .stopped hknown hstopsAt hcomplaint,
          ⟨_, houtput, hjson, htext⟩, hstandardOutput, hstandardError⟩)
      · exact .inr (.inr ⟨crash, .stopped hknown hstopsAt⟩)

end Run

/-- A run without a settings file fails if and only if it has no paths or is obstructed, and it breaks off if
    and only if there are no words for the obstacle. Without paths it prints its usage. Otherwise it ends its
    output with the complaint: alone in JSON, and in text behind the diagnostics of the files visited
    before. -/
theorem run_fails_iff {arguments : List Text} (hoptions : Options.ofArguments arguments = .ok options)
    (hconfig : options.config = none) (hlist : options.listRules = false) (files : FileSystem) :
    ((run files arguments).status = .ok statusFailed ↔
        options.paths = [] ∨ ∃ visited complaint, Obstructed files options visited complaint) ∧
      (∀ crash, (run files arguments).status = .error crash ↔
        options.paths ≠ [] ∧ BreaksOff files options crash) ∧
      (options.paths = [] → (run files arguments).output = [] ∧ (run files arguments).standardOutput = [] ∧
        (run files arguments).standardError = usage) ∧
      (options.paths ≠ [] → (run files arguments).status = .ok statusFailed →
        ∃ visited complaint, Obstructed files options visited complaint ∧
          (run files arguments).Fails files options visited complaint) := by
  by_cases hpaths : options.paths = []
  · rw [run_of_no_paths hoptions hlist hpaths]
    refine ⟨iff_of_true rfl (.inl hpaths), fun crash => ?_, fun _ => ⟨rfl, rfl, rfl⟩,
      fun hnot => absurd hpaths hnot⟩
    exact iff_of_false (fun h => by cases h) fun h => h.1 hpaths
  have hfails : (run files arguments).status = .ok statusFailed →
      ∃ visited complaint, Obstructed files options visited complaint ∧
        (run files arguments).Fails files options visited complaint := by
    intro hstatus
    obtain ⟨status, hok, hother⟩ | hobstructed | ⟨crash, hbreaks⟩ :=
      run_cases hoptions hlist hpaths hconfig files
    · exact absurd (Except.ok.inj (hok.symm.trans hstatus)) hother
    · exact hobstructed
    · rw [status_of_breaksOff hoptions hlist hpaths hconfig hbreaks] at hstatus
      cases hstatus
  have hbreaks : ∀ crash, (run files arguments).status = .error crash → BreaksOff files options crash := by
    intro crash hstatus
    obtain ⟨status, hok, _⟩ | ⟨visited, complaint, hobstructed, _⟩ | ⟨other, hbreaks⟩ :=
      run_cases hoptions hlist hpaths hconfig files
    · rw [hok] at hstatus
      cases hstatus
    · rw [status_of_obstructed hoptions hlist hpaths hconfig hobstructed] at hstatus
      cases hstatus
    · rw [status_of_breaksOff hoptions hlist hpaths hconfig hbreaks] at hstatus
      obtain rfl := Except.error.inj hstatus
      exact hbreaks
  refine ⟨⟨fun hstatus => ?_, ?_⟩, fun crash => ⟨fun hstatus => ⟨hpaths, hbreaks crash hstatus⟩, ?_⟩,
    fun hnone => absurd hnone hpaths, fun _ => hfails⟩
  · obtain ⟨visited, complaint, hobstructed, _⟩ := hfails hstatus
    exact .inr ⟨visited, complaint, hobstructed⟩
  · rintro (hnone | ⟨visited, complaint, hobstructed⟩)
    · exact absurd hnone hpaths
    · exact status_of_obstructed hoptions hlist hpaths hconfig hobstructed
  · rintro ⟨_, hcrash⟩
    exact status_of_breaksOff hoptions hlist hpaths hconfig hcrash

/-- Behind a file with a match, a path that leads nowhere fails the run. -/
theorem run_fails_iff_missing :
    let files : FileSystem :=
      ⟨.directory [("a.html", .file (Utf8.encode "cdk-focus-trap"))], ⟨"/", []⟩⟩
    let options : Options := { paths := [⟨[], ["a.html"]⟩, ⟨[], ["b"]⟩] }
    (run files ["a.html", "b"]).status = .ok statusFailed ∧
      ∃ visited, files.StopsAt options.paths visited (.missing ⟨[], ["b"]⟩) ∧
        (run files ["a.html", "b"]).Fails files options visited "Path not found: b" := by
  intro files options
  have hoptions : Options.ofArguments ["a.html", "b"] = .ok options := rfl
  have htext : files.readText ⟨[], ["a.html"]⟩ = .ok "cdk-focus-trap" := by decide +kernel
  have hpasses : files.Passes [⟨[], ["a.html"]⟩] [⟨[], ["a.html"]⟩] := by
    refine ⟨⟨[[⟨[], ["a.html"]⟩]], .cons (.file rfl) .nil, rfl⟩, List.forall_mem_singleton.mpr ?_⟩
    exact ⟨_, .external (by decide) htext⟩
  have hdisabled : options.DisablesBuiltin := List.forall_mem_nil _
  have hstops : files.StopsAt options.paths [⟨[], ["a.html"]⟩] (.missing ⟨[], ["b"]⟩) :=
    .missing (show options.paths = [⟨[], ["a.html"]⟩] ++ ⟨[], ["b"]⟩ :: [] from rfl) hpasses rfl
  have hcomplaint : complaint? (.missing ⟨[], ["b"]⟩) = some "Path not found: b" := rfl
  obtain ⟨hfailed, _, _, hprinted⟩ := run_fails_iff hoptions rfl rfl files
  have hstatus := hfailed.mpr (.inr ⟨_, _, .stopped hdisabled hstops hcomplaint⟩)
  obtain ⟨visited, complaint, hobstructed, hfails⟩ := hprinted (List.cons_ne_nil _ _) hstatus
  refine ⟨hstatus, visited, ?_⟩
  cases hobstructed with
  | unknownRule hnames hunknown => exact absurd hunknown (hdisabled.not_unknown hnames)
  | stopped _ hstop hother =>
    obtain rfl := hstop.unique hstops
    obtain rfl := Option.some.inj (hcomplaint.symm.trans hother)
    exact ⟨hstop, hfails⟩

/-- A name of 256 bytes is too long even to ask whether it is there, and the run breaks off. So it does with
    a rule to leave out that has no name. -/
theorem run_breaks_off :
    let files : FileSystem := ⟨.directory [("a.html", .file [])], ⟨"/", []⟩⟩
    let name : Text := Text.repeated 256 'a'
    files.node ⟨[], [name]⟩ = .error (.path .nameTooLong name) ∧
      (run files [name]).status = .error (.file (.path .nameTooLong name)) ∧
      (run files ["--disable=--", "a.html"]).status = .error .unnamedRule := by
  intro files name
  let path : Path := ⟨[], [name]⟩
  have hsize : Utf8.size name = 256 := by decide +kernel
  have hslash : '/' ∉ name := fun hmem => absurd (List.eq_of_mem_replicate hmem) (by decide)
  have hpath : Path.ofText name = path := by
    rw [Path.ofText, Path.partsOf, Text.splitAll_of_notMem hslash]
    rfl
  have hoptions : Options.ofArguments [name] = .ok { paths := [path] } := by
    have hplain : ∀ rest, Options.ofArguments ['a' :: rest] = .ok { paths := [Path.ofText ('a' :: rest)] } :=
      fun _ => rfl
    rw [← hpath]
    exact hplain (Text.repeated 255 'a')
  have hnode : files.node path = .error (.path .nameTooLong name) := by
    have hnull : path.isNullFree = true := by decide +kernel
    have htext : path.text = name := rfl
    have hparts : (files.current.join path).parts = [name] := rfl
    have hups : (name == ['.', '.']) = false := by decide +kernel
    rw [FileSystem.node, hnull, htext, hsize, hparts]
    simp only [files, FileNode.follow, hups, hsize]
    rfl
  have hdisabled : Options.DisablesBuiltin { paths := [path] } := List.forall_mem_nil _
  have hstops : files.StopsAt [path] [] (.crash (.file (.path .nameTooLong name))) := by
    refine .unclear (show [path] = [] ++ path :: [] from rfl) ⟨⟨[], .nil, rfl⟩, List.forall_mem_nil _⟩ ?_
    rw [FileSystem.node?, hnode]
  have hunnamed : Options.ofArguments ["--disable=--", "a.html"] =
      .ok { paths := [⟨[], ["a.html"]⟩], disabled := [none] } := rfl
  refine ⟨hnode, ?_, ?_⟩
  · exact status_of_breaksOff hoptions rfl (List.cons_ne_nil _ _) rfl (.stopped hdisabled hstops)
  · exact status_of_breaksOff hunnamed rfl (List.cons_ne_nil _ _) rfl (.unnamedRule List.mem_cons_self)

end TemplateAudit.CommandLine
