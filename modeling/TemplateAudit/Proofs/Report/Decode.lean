import TemplateAudit.Proofs.Json.Value
import TemplateAudit.Report.Decode

namespace TemplateAudit

/-- All numbers of an entry. -/
def ReportEntry.numbers (entry : ReportEntry) : List Int :=
  entry.start :: entry.stop :: (entry.line.toList ++ entry.column.toList)

/-- All numbers of a report. -/
def Report.numbers (report : Report) : List Int :=
  report.files :: report.entries.flatMap ReportEntry.numbers

theorem Report.entry_toJson (entry : ReportEntry) : Report.entry entry.toJson = .ok entry := by
  obtain ⟨rule, path, start, stop, line, column, message⟩ := entry
  cases path <;> cases line <;> cases column <;> rfl

/-- All entries are decoded, whatever the index of the first. -/
theorem Report.itemsFrom_toJson (index : Nat) (entries : List ReportEntry) :
    itemsFrom Report.entry index (entries.map ReportEntry.toJson) = .ok entries := by
  induction entries generalizing index with
  | nil => rfl
  | cons entry rest ih =>
    rw [List.map_cons, itemsFrom, entry_toJson, ih]
    rfl

/-- A report is decoded from its value. -/
theorem Report.ofJson_toJson (report : Report) : ofJson report.toJson = .ok report := by
  have hentries : memberOr (.ok []) (listOf Report.entry) "diagnostics" [("files", .int report.files),
      ("diagnostics", .array (report.entries.map ReportEntry.toJson))] = .ok report.entries := by
    show under _ (itemsFrom Report.entry 0 _) = _
    rw [itemsFrom_toJson]
    rfl
  rw [toJson, ofJson, hentries]
  rfl

theorem forall_mem_optionalMember {motive : Text × Json → Prop} {key : Text} {value : Option Json} :
    (∀ member ∈ optionalMember key value, motive member) ↔ ∀ v ∈ value, motive (key, v) := by
  cases value <;> simp [optionalMember]

/-- The value of an entry can be read back if no number of the entry is too long. -/
theorem ReportEntry.readable_toJson {entry : ReportEntry}
    (h : ∀ n ∈ entry.numbers, Numeral.isTooLong n = false) (depth : Nat) :
    Json.Readable (depth + 1) entry.toJson := by
  simp only [numbers, List.forall_mem_cons, List.forall_mem_append, Option.mem_toList] at h
  obtain ⟨hstart, hstop, hline, hcolumn⟩ := h
  refine .object ?_
  simp only [memberFor, List.forall_mem_append, List.forall_mem_singleton, forall_mem_optionalMember]
  refine ⟨⟨⟨⟨⟨⟨.string _, ?_⟩, .int hstart⟩, .int hstop⟩, ?_⟩, ?_⟩, .string _⟩
  · intro value hvalue
    obtain ⟨path, _, rfl⟩ := Option.map_eq_some_iff.mp hvalue
    exact .string path
  · intro value hvalue
    obtain ⟨line, hmem, rfl⟩ := Option.map_eq_some_iff.mp hvalue
    exact .int (hline line hmem)
  · intro value hvalue
    obtain ⟨column, hmem, rfl⟩ := Option.map_eq_some_iff.mp hvalue
    exact .int (hcolumn column hmem)

/-- A report can be read back if none of its numbers is too long. -/
theorem Report.readable_toJson {report : Report}
    (h : ∀ n ∈ report.numbers, Numeral.isTooLong n = false) (depth : Nat) :
    Json.Readable (depth + 3) report.toJson := by
  obtain ⟨hfiles, hentries⟩ := List.forall_mem_cons.mp h
  refine .object (List.forall_mem_cons.mpr ⟨.int hfiles, List.forall_mem_singleton.mpr (.array ?_)⟩)
  intro value hvalue
  obtain ⟨entry, hentry, rfl⟩ := List.mem_map.mp hvalue
  exact ReportEntry.readable_toJson (fun n hn => hentries n (List.mem_flatMap.mpr ⟨entry, hentry, hn⟩)) depth

/-- The text of a report is read back, whatever white space follows. -/
theorem Report.decode_encode {report : Report} (h : ∀ n ∈ report.numbers, Numeral.isTooLong n = false)
    {gap : Text} (hgap : ∀ c ∈ gap, Json.isGap c = true) : decode (report.encode ++ gap) = .ok report := by
  rw [decode, decodeBy, encode, Json.read?_render (readable_toJson h 197) hgap]
  exact ofJson_toJson report

end TemplateAudit
