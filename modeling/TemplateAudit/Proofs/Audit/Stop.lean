import TemplateAudit.Proofs.Audit.Report
import TemplateAudit.Proofs.Component.Refusal

namespace TemplateAudit

/-- The text is what is printed of the diagnostics of the rules in the template. -/
def TemplateSource.Prints (rules : List Rule) (showSource : Bool) (template : TemplateSource) (text : Text) :
    Prop :=
  ∃ found, (scan template.fragment rules).value = .ok found ∧
    printDiagnostics (some template.source) showSource found = ⟨text, none⟩

namespace FileSystem

/-- The text is what is printed of the templates of the file, in order. -/
def Prints (files : FileSystem) (rules : List Rule) (showSource : Bool) (path : Path) (text : Text) : Prop :=
  ∃ templates, files.Loads path templates ∧
    Concatenates (TemplateSource.Prints rules showSource) templates text

/-- The paths lead to the visited files, and all of these can be loaded. -/
structure Passes (files : FileSystem) (paths visited : List Path) : Prop where
  visits : Concatenates files.Visits paths visited
  loads : ∀ file ∈ visited, ∃ templates, files.Loads file templates

/-- How an audit stops at a file that is refused: with no words for it if a null character is the reason. -/
def stopAt (file : Path) : FileError → AuditStop
  | .nullCharacter => .crash (.file .nullCharacter)
  | error => .unreadable file error

/-- Where an audit of the paths stops, with the files visited before: at a path where nothing is, at one of
    which this cannot be told because a name in it is too long, at a directory with something in the way of the
    walk through it, or at a file that is refused. -/
inductive StopsAt (files : FileSystem) (paths : List Path) : List Path → AuditStop → Prop where
  | missing {before after visited : List Path} {path : Path} (hpaths : paths = before ++ path :: after)
      (hbefore : files.Passes before visited) (hnode : files.node? path = .ok none) :
      StopsAt files paths visited (.missing path)
  | unclear {before after visited : List Path} {path : Path} {error : FileError}
      (hpaths : paths = before ++ path :: after) (hbefore : files.Passes before visited)
      (hnode : files.node? path = .error error) : StopsAt files paths visited (.crash (.file error))
  | unlisted {before after visited : List Path} {path : Path} {node : FileNode} {error : ListingError}
      (hpaths : paths = before ++ path :: after) (hbefore : files.Passes before visited)
      (hnode : files.node? path = .ok (some node)) (hwalk : node.StopsWalk walkRoom path error) :
      StopsAt files paths visited (.crash (.listing error))
  | refused {before after visited passed later : List Path} {path file : Path} {error : FileError}
      (hpaths : paths = before ++ path :: after) (hbefore : files.Passes before visited)
      (hvisits : files.Visits path (passed ++ file :: later))
      (hpassed : ∀ earlier ∈ passed, ∃ templates, files.Loads earlier templates)
      (hrefuses : files.Refuses file error) : StopsAt files paths (visited ++ passed) (stopAt file error)

end FileSystem

section Builtin

variable {rules : List Rule} (hrules : ∀ rule ∈ rules, rule ∈ Rule.builtin) {files : FileSystem}
  {format : ReportFormat} {showSource : Bool}

include hrules

theorem TemplateSource.audit_prints {template : TemplateSource}
    (hpart : template.fragment.IsOf template.source) (showSource : Bool) :
    template.Prints rules showSource (template.audit ⟨rules, .text, showSource⟩).findings.output := by
  obtain ⟨entries, ⟨found, hscan, _⟩, haudit⟩ := TemplateSource.audit_builtin hrules hpart
  have hstop := (haudit .text showSource).1
  refine ⟨found, hscan, ?_⟩
  unfold TemplateSource.audit TemplateSource.print at hstop ⊢
  simp only [hscan] at hstop ⊢
  cases hprinted : printDiagnostics (some template.source) showSource found with
  | mk output error =>
    rw [hprinted] at hstop
    cases error with
    | none => rfl
    | some error => cases hstop

namespace FileSystem

/-- A file that can be loaded is audited to its end, and its templates are printed. -/
theorem auditFile_of_loads {path : Path} (h : ∃ templates, files.Loads path templates) :
    (files.auditFile ⟨rules, format, showSource⟩ path).stop = none ∧
      files.Prints rules showSource path
        (files.auditFile ⟨rules, .text, showSource⟩ path).findings.output := by
  obtain ⟨templates, hload⟩ := exists_loads_iff.mp h
  have hloads := loads_of_loadTemplates hload
  refine ⟨auditFile_complete hrules hload, templates, hloads, ?_⟩
  rw [auditFile, hload]
  refine Audited.each_prints fun template htemplate => ?_
  obtain ⟨source, hread⟩ := hloads.isRead template htemplate
  obtain ⟨entries, _, haudit⟩ := TemplateSource.audit_builtin hrules hread.part
  exact ⟨(haudit .text showSource).1, TemplateSource.audit_prints hrules hread.part showSource⟩

omit hrules in
theorem auditFile_of_refuses {path : Path} {error : FileError} (h : files.Refuses path error)
    (options : AuditOptions) : files.auditFile options path = .stopped (stopAt path error) := by
  rw [auditFile, loadTemplates_eq_error_iff.mpr h]
  cases error <;> rfl

/-- A file stops an audit exactly if it is refused. -/
theorem auditFile_stop_iff {path : Path} {stop : AuditStop} :
    (files.auditFile ⟨rules, format, showSource⟩ path).stop = some stop ↔
      ∃ error, files.Refuses path error ∧ stop = stopAt path error := by
  constructor
  · intro h
    cases hload : files.loadTemplates path with
    | error error =>
      have hrefuses := loadTemplates_eq_error_iff.mp hload
      rw [auditFile_of_refuses hrefuses] at h
      exact ⟨error, hrefuses, (Option.some.inj h).symm⟩
    | ok templates =>
      rw [auditFile_complete hrules hload] at h
      cases h
  · rintro ⟨error, hrefuses, rfl⟩
    rw [auditFile_of_refuses hrefuses]
    rfl

omit hrules in
/-- The templates of a file are loaded if its audit does not stop. -/
theorem loads_of_auditFile {path : Path} {options : AuditOptions}
    (h : (files.auditFile options path).stop = none) : ∃ templates, files.Loads path templates := by
  cases hload : files.loadTemplates path with
  | error error =>
    rw [auditFile_of_refuses (loadTemplates_eq_error_iff.mp hload)] at h
    cases h
  | ok templates => exact ⟨templates, loads_of_loadTemplates hload⟩

omit hrules in
theorem auditPath_of_visits {path : Path} {visited : List Path} (h : files.Visits path visited)
    (options : AuditOptions) :
    files.auditPath options path = Audited.each (files.auditFile options) visited := by
  obtain ⟨node, hnode, hfound⟩ := h.templateFiles_eq
  rw [auditPath, hnode, hfound]

omit hrules in
/-- Where something is in the way of the walk, nothing is audited. -/
theorem auditPath_of_stopsWalk {path : Path} {node : FileNode} {error : ListingError}
    (hnode : files.node? path = .ok (some node)) (h : node.StopsWalk walkRoom path error)
    (options : AuditOptions) : files.auditPath options path = .stopped (.crash (.listing error)) := by
  have hlisting := templateFiles_of_stopsWalk hnode h templateSuffixes
  rw [auditPath, hnode]
  dsimp only
  rw [hlisting]

/-- A path that is audited to its end leads to files that can be loaded, and these are printed. -/
theorem visits_of_auditPath {path : Path} (h : (files.auditPath ⟨rules, .text, showSource⟩ path).stop = none) :
    ∃ visited, files.Visits path visited ∧ (∀ file ∈ visited, ∃ templates, files.Loads file templates) ∧
      Concatenates (files.Prints rules showSource) visited
        (files.auditPath ⟨rules, .text, showSource⟩ path).findings.output := by
  cases hnode : files.node? path with
  | error error =>
    rw [auditPath, hnode] at h
    cases h
  | ok node =>
    cases node with
    | none =>
      rw [auditPath, hnode] at h
      cases h
    | some node =>
      obtain ⟨visited, hvisits⟩ | ⟨error, hwalk⟩ := exists_visits hnode
      · rw [auditPath_of_visits hvisits] at h ⊢
        have hloads : ∀ file ∈ visited, ∃ templates, files.Loads file templates :=
          fun file hfile => loads_of_auditFile (Audited.complete_of_each h file hfile)
        exact ⟨visited, hvisits, hloads,
          Audited.each_prints fun file hfile => auditFile_of_loads hrules (hloads file hfile)⟩
      · rw [auditPath_of_stopsWalk hnode hwalk] at h
        cases h

/-- Paths that are audited to their ends are passed. -/
theorem passes_of_auditPath {paths : List Path}
    (h : ∀ path ∈ paths, (files.auditPath ⟨rules, .text, showSource⟩ path).stop = none) :
    ∃ visited, files.Passes paths visited ∧ Concatenates (files.Prints rules showSource) visited
      (files.auditPaths ⟨rules, .text, showSource⟩ paths).findings.output := by
  induction paths with
  | nil => exact ⟨[], ⟨⟨[], .nil, rfl⟩, List.forall_mem_nil _⟩, [], .nil, rfl⟩
  | cons path rest ih =>
    obtain ⟨hfirst, hrest⟩ := List.forall_mem_cons.mp h
    obtain ⟨visited, hvisits, hloads, hprints⟩ := visits_of_auditPath hrules hfirst
    obtain ⟨later, ⟨⟨parts, hparts, rfl⟩, hlater⟩, hprinted⟩ := ih hrest
    refine ⟨visited ++ parts.flatten, ⟨⟨visited :: parts, .cons hvisits hparts, rfl⟩, ?_⟩, ?_⟩
    · exact List.forall_mem_append.mpr ⟨hloads, hlater⟩
    · rw [auditPaths, Audited.each_cons_of_complete hfirst]
      exact hprints.append hprinted

/-- Paths that are passed are audited to their ends. -/
theorem Passes.auditPath {paths visited : List Path} (h : files.Passes paths visited) :
    ∀ path ∈ paths, (files.auditPath ⟨rules, format, showSource⟩ path).stop = none := by
  obtain ⟨⟨parts, hparts, rfl⟩, hloads⟩ := h
  induction hparts with
  | nil => exact List.forall_mem_nil _
  | @cons path files' paths parts hvisits _ ih =>
    obtain ⟨hfirst, hlater⟩ := List.forall_mem_append.mp hloads
    refine List.forall_mem_cons.mpr ⟨?_, ih hlater⟩
    rw [auditPath_of_visits hvisits]
    exact Audited.each_complete fun file hfile => (auditFile_of_loads hrules (hfirst file hfile)).1

/-- An audit that is obstructed stops there. -/
theorem StopsAt.stop_eq {paths visited : List Path} {stop : AuditStop} (h : files.StopsAt paths visited stop) :
    (files.auditPaths ⟨rules, format, showSource⟩ paths).stop = some stop := by
  refine Audited.each_stop_iff.mpr ?_
  cases h with
  | missing hpaths hbefore hnode =>
    refine ⟨_, _, ⟨⟨_, hpaths⟩, hbefore.auditPath hrules⟩, ?_⟩
    rw [auditPath, hnode]
    rfl
  | unclear hpaths hbefore hnode =>
    refine ⟨_, _, ⟨⟨_, hpaths⟩, hbefore.auditPath hrules⟩, ?_⟩
    rw [auditPath, hnode]
    rfl
  | unlisted hpaths hbefore hnode hwalk =>
    refine ⟨_, _, ⟨⟨_, hpaths⟩, hbefore.auditPath hrules⟩, ?_⟩
    rw [auditPath_of_stopsWalk hnode hwalk]
    rfl
  | refused hpaths hbefore hvisits hpassed hrefuses =>
    refine ⟨_, _, ⟨⟨_, hpaths⟩, hbefore.auditPath hrules⟩, ?_⟩
    rw [auditPath_of_visits hvisits, Audited.each_stop_iff]
    exact ⟨_, _, ⟨⟨_, rfl⟩, fun earlier hearlier => (auditFile_of_loads hrules (hpassed earlier hearlier)).1⟩,
      (auditFile_stop_iff hrules).mpr ⟨_, hrefuses, rfl⟩⟩

/-- An audit that stops does so at an obstacle, and the files before it have been printed. -/
theorem exists_stopsAt {paths : List Path} {stop : AuditStop}
    (h : (files.auditPaths ⟨rules, .text, showSource⟩ paths).stop = some stop) :
    ∃ visited, files.StopsAt paths visited stop ∧ Concatenates (files.Prints rules showSource) visited
      (files.auditPaths ⟨rules, .text, showSource⟩ paths).findings.output := by
  obtain ⟨before, path, hreaches, hstop⟩ := Audited.each_stop_iff.mp h
  have houtput := Audited.each_output_of_reaches hreaches (by simp [hstop])
  obtain ⟨⟨after, hpaths⟩, hcomplete⟩ := hreaches
  obtain ⟨visited, hbefore, hprints⟩ := passes_of_auditPath hrules hcomplete
  rw [auditPaths, houtput]
  cases hnode : files.node? path with
  | error error =>
    rw [auditPath, hnode] at hstop ⊢
    obtain rfl := Option.some.inj hstop
    rw [Audited.output_stopped, List.append_nil]
    exact ⟨visited, .unclear hpaths hbefore hnode, hprints⟩
  | ok node =>
    cases node with
    | none =>
      rw [auditPath, hnode] at hstop ⊢
      obtain rfl := Option.some.inj hstop
      rw [Audited.output_stopped, List.append_nil]
      exact ⟨visited, .missing hpaths hbefore hnode, hprints⟩
    | some node =>
      obtain ⟨all, hvisits⟩ | ⟨error, hwalk⟩ := exists_visits hnode
      · rw [auditPath_of_visits hvisits] at hstop ⊢
        obtain ⟨passed, file, hreached, hfile⟩ := Audited.each_stop_iff.mp hstop
        rw [Audited.each_output_of_reaches hreached (by simp [hfile])]
        obtain ⟨error, hrefuses, rfl⟩ := (auditFile_stop_iff hrules).mp hfile
        obtain ⟨⟨later, rfl⟩, hpassed⟩ := hreached
        have hloads := fun earlier hearlier => loads_of_auditFile (hpassed earlier hearlier)
        refine ⟨visited ++ passed, .refused hpaths hbefore hvisits hloads hrefuses, ?_⟩
        rw [auditFile_of_refuses hrefuses, Audited.output_stopped, List.append_nil]
        exact hprints.append (Audited.each_prints fun earlier hearlier =>
          auditFile_of_loads hrules (hloads earlier hearlier))
      · rw [auditPath_of_stopsWalk hnode hwalk] at hstop ⊢
        obtain rfl := Option.some.inj hstop
        rw [Audited.output_stopped, List.append_nil]
        exact ⟨visited, .unlisted hpaths hbefore hnode hwalk, hprints⟩

end FileSystem

end Builtin

/-- There is one obstacle at which an audit of paths stops. -/
theorem FileSystem.StopsAt.unique {files : FileSystem} {paths visited visited' : List Path}
    {stop stop' : AuditStop} (h : files.StopsAt paths visited stop)
    (h' : files.StopsAt paths visited' stop') : stop = stop' := by
  have hstop : (files.auditPaths ⟨Rule.builtin, .text, false⟩ paths).stop = some stop :=
    h.stop_eq fun _ hrule => hrule
  have hstop' : (files.auditPaths ⟨Rule.builtin, .text, false⟩ paths).stop = some stop' :=
    h'.stop_eq fun _ hrule => hrule
  exact Option.some.inj (hstop.symm.trans hstop')

end TemplateAudit
