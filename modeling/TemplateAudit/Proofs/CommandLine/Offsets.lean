import TemplateAudit.Proofs.CommandLine.Run
import TemplateAudit.Proofs.Text.Newlines

namespace TemplateAudit

/-- The entry is about a part of the content that spells the token of the rule up to the case of letters.
    Its offsets are those of this part in the content with uniform line ends; in the content itself the
    part is further on by the paired line ends before it. -/
structure ReportEntry.Marks (entry : ReportEntry) (rule : Rule) (content before marked : Text) : Prop where
  name : entry.rule = rule.name
  part : ∃ after, content = before ++ marked ++ after
  spelling : marked.map Char.toLower = rule.token.map Char.toLower
  start : entry.start + before.pairedNewlines = before.length
  stop : entry.stop + before.pairedNewlines = before.length + marked.length
  uniform : content.uniformNewlines.slice entry.start.toNat entry.stop.toNat = marked
  exact : before.pairedNewlines = 0 → content.slice entry.start.toNat entry.stop.toNat = marked

/-- An entry that describes a match in a text with uniform line ends marks it in the content. -/
theorem ReportEntry.exists_marks {entry : ReportEntry} {rule : Rule} {fragment : Fragment} {content : Text}
    {offset : Nat} (hrule : rule ∈ Rule.builtin) (hpart : fragment.IsOf content.uniformNewlines)
    (hmatches : rule.MatchesAt fragment.text offset)
    (hentry : entry.Describes ((rule.diagnose offset).locate fragment) content.uniformNewlines) :
    ∃ before marked, entry.Marks rule content before marked := by
  obtain ⟨base, rest, hbase, hdrop⟩ := hpart.drop_eq
  obtain ⟨marked, hmarked, hplace, hlength, hspelling⟩ := hmatches.exists_part hdrop
  have hne : marked ≠ [] := by
    rw [← List.length_pos_iff, hlength]
    exact List.length_pos_iff.mpr rule.token_ne_nil
  have hline : '\n' ∉ marked := fun hmem =>
    absurd (Rule.visible_of_spelling hrule hspelling '\n' hmem) (by decide)
  obtain ⟨before, after, rfl, hbefore⟩ := Text.exists_of_drop_uniformNewlines hplace hne hline
  rw [Rule.locate_diagnose rule offset hbase] at hentry
  have hstart : entry.start = ↑(base + offset) := hentry.start
  have hstop : entry.stop = ↑(base + (offset + rule.token.length)) := hentry.stop
  refine ⟨before, marked, hentry.rule, ⟨after, rfl⟩, hspelling, by omega, by omega, ?_, fun hunpaired => ?_⟩
  · rw [hstart, hstop]
    exact hmarked
  · have hdrop : (before ++ marked ++ after).drop (base + offset) = marked ++ after := by
      rw [List.append_assoc, List.drop_left' (by omega)]
    rw [hstart, hstop]
    exact Text.slice_of_drop hdrop (by omega)

namespace CommandLine

theorem report_listRules (rules : List Rule) : (listRules rules).report = .empty := by
  induction rules with
  | nil => rfl
  | cons rule rest ih =>
    rw [listRules]
    split
    · rfl
    · exact ih

/-- What is reported at all is reported by the audit of a run. -/
theorem audited_of_mem_report {files : FileSystem} {arguments : List Text} {entry : ReportEntry}
    (h : entry ∈ (run files arguments).report.entries) :
    ∃ options settings rules, Options.ofArguments arguments = .ok options ∧
      prepare files options = .ok (settings, rules) ∧
      entry ∈ (audited files options settings rules).findings.report.entries := by
  cases hoptions : Options.ofArguments arguments with
  | error complaint =>
    rw [run, hoptions] at h
    cases complaint <;> exact absurd h List.not_mem_nil
  | ok options =>
    cases hlist : options.listRules with
    | true =>
      simp only [run, hoptions, runOptions, hlist, if_true, report_listRules] at h
      exact absurd h List.not_mem_nil
    | false =>
      cases hprepare : prepare files options with
      | error error =>
        simp only [run, hoptions, runOptions, hlist, hprepare, Bool.false_eq_true, if_false] at h
        split at h
        · exact absurd h List.not_mem_nil
        · rw [report_ending] at h
          exact absurd h List.not_mem_nil
      | ok prepared =>
        rw [report_run hoptions hlist hprepare] at h
        exact ⟨options, prepared.1, prepared.2, rfl, hprepare, h⟩

/-- Every entry of a report goes by the path of a file and marks a match in the content of that file. -/
theorem run_marks_matches (files : FileSystem) (arguments : List Text) :
    ∀ entry ∈ (run files arguments).report.entries,
      ∃ path bytes content, entry.path = some path.text ∧ files.readBytes path = .ok bytes ∧
        Utf8.decode bytes = .ok content ∧
        ∃ rule ∈ Rule.builtin, ∃ before marked, entry.Marks rule content before marked := by
  intro entry hentry
  obtain ⟨options, settings, rules, _, hprepare, hentry⟩ := audited_of_mem_report hentry
  have hbuiltin := mem_builtin_of_prepare hprepare
  obtain ⟨template, path, hread, rule, hrule, offset, hmatches, hdescribes⟩ :=
    FileSystem.describes_match_of_mem_auditPaths hbuiltin hentry
  obtain ⟨bytes, content, hbytes, hcontent, hsource⟩ := FileSystem.readText_eq_ok_iff.mp hread.read
  have hpart := hread.part
  rw [hsource] at hpart hdescribes
  exact ⟨path, bytes, content, hdescribes.path.trans hread.named, hbytes, hcontent, rule, hbuiltin rule hrule,
    ReportEntry.exists_marks (hbuiltin rule hrule) hpart hmatches hdescribes⟩

/-- A file in which the selector stands after a carriage return with a line feed. -/
theorem report_after_pair :
    let files : FileSystem :=
      ⟨.directory [("a.html", .file (Utf8.encode "\r\ncdk-focus-trap"))], ⟨"/", []⟩⟩
    ∃ entry : ReportEntry, (run files ["a.html"]).report.entries = [entry] ∧ entry.start = 1 ∧
      entry.stop = 15 ∧ entry.path = some "a.html" ∧ entry.rule = Rule.focusTrapSelector.name := by
  intro files
  have hoptions : Options.ofArguments ["a.html"] = .ok { paths := [⟨[], ["a.html"]⟩] } := rfl
  have hprepare : prepare files { paths := [⟨[], ["a.html"]⟩] } = .ok ({}, Rule.builtin) :=
    prepare_of_nothing_disabled rfl rfl
  have hnode : files.node? ⟨[], ["a.html"]⟩ =
    .ok (some (.file (Utf8.encode "\r\ncdk-focus-trap"))) := rfl
  have htext : files.readText ⟨[], ["a.html"]⟩ = .ok "\ncdk-focus-trap" := by decide +kernel
  have honce : Text.occurrences "\ncdk-focus-trap" Rule.focusTrapSelector.token = [1] := by decide +kernel
  obtain ⟨_, entry, hreport, hentry⟩ :=
    report_run_selector_once hoptions rfl rfl hprepare hnode (by decide) htext (by decide) honce
  exact ⟨entry, congrArg Report.entries hreport, hentry.start, hentry.stop, hentry.path, hentry.rule⟩

/-- After a carriage return with a line feed the selector is marked, one character short of its place. -/
theorem run_marks_matches_after_pair :
    let files : FileSystem :=
      ⟨.directory [("a.html", .file (Utf8.encode "\r\ncdk-focus-trap"))], ⟨"/", []⟩⟩
    ∃ entry ∈ (run files ["a.html"]).report.entries, entry.start = 1 ∧ entry.stop = 15 ∧
      ∃ path bytes content, entry.path = some path.text ∧ files.readBytes path = .ok bytes ∧
        Utf8.decode bytes = .ok content ∧
        ∃ rule ∈ Rule.builtin, ∃ before marked, entry.Marks rule content before marked := by
  intro files
  obtain ⟨entry, hentries, hstart, hstop, _⟩ := report_after_pair
  have hentry : entry ∈ (run files ["a.html"]).report.entries := by
    rw [hentries]
    exact List.mem_singleton.mpr rfl
  exact ⟨entry, hentry, hstart, hstop, run_marks_matches files ["a.html"] entry hentry⟩

/-- There the offsets cut another piece out of the file. -/
theorem run_misses_after_pair :
    let content : Text := "\r\ncdk-focus-trap"
    let files : FileSystem := ⟨.directory [("a.html", .file (Utf8.encode content))], ⟨"/", []⟩⟩
    files.readBytes ⟨[], ["a.html"]⟩ = .ok (Utf8.encode content) ∧
      Utf8.decode (Utf8.encode content) = .ok content ∧
      ∃ entry : ReportEntry, (run files ["a.html"]).report.entries = [entry] ∧ entry.path = some "a.html" ∧
        entry.rule = Rule.focusTrapSelector.name ∧
        content.slice entry.start.toNat entry.stop.toNat = "\ncdk-focus-tra" ∧
        (content.slice entry.start.toNat entry.stop.toNat).map Char.toLower ≠
          Rule.focusTrapSelector.token.map Char.toLower := by
  intro content files
  obtain ⟨entry, hentries, hstart, hstop, hpath, hrule⟩ := report_after_pair
  have hdecode : Utf8.decode (Utf8.encode "\r\ncdk-focus-trap") = .ok "\r\ncdk-focus-trap" := by decide +kernel
  refine ⟨rfl, hdecode, entry, hentries, hpath, hrule, ?_, ?_⟩
  · rw [hstart, hstop]
    rfl
  · rw [hstart, hstop]
    decide

end CommandLine

end TemplateAudit
