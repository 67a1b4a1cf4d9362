import Mathlib
import TemplateAudit.Audit.Basic
import TemplateAudit.Proofs.Steps

namespace TemplateAudit

/-- A report followed by another one. -/
def Report.append (first second : Report) : Report :=
  ⟨first.files + second.files, first.entries ++ second.entries⟩

/-- The whole is made of one part for each item, in their order. -/
def Concatenates {α β : Type} (part : α → List β → Prop) (items : List α) (whole : List β) : Prop :=
  ∃ parts, List.Forall₂ part items parts ∧ whole = parts.flatten

theorem Concatenates.append {α β : Type} {part : α → List β → Prop} {first second : List α}
    {whole whole' : List β} (hfirst : Concatenates part first whole)
    (hsecond : Concatenates part second whole') : Concatenates part (first ++ second) (whole ++ whole') := by
  obtain ⟨parts, hparts, rfl⟩ := hfirst
  obtain ⟨parts', hparts', rfl⟩ := hsecond
  exact ⟨parts ++ parts', List.rel_append hparts hparts', List.flatten_append.symm⟩

/-- Where every item counts for the same, the number of files is that of the items. -/
theorem concatenates_of_reports {α : Type} {part : α → List ReportEntry → Prop} {count : Int}
    {items : List α} {reports : List Report}
    (h : List.Forall₂ (fun item report => report.files = count ∧ part item report.entries) items reports) :
    (reports.map Report.files).sum = count * items.length ∧
      Concatenates part items (reports.map Report.entries).flatten := by
  induction h with
  | nil => exact ⟨by simp, [], .nil, rfl⟩
  | @cons item report items reports hfirst _ ih =>
    obtain ⟨hsum, parts, hparts, hentries⟩ := ih
    refine ⟨?_, report.entries :: parts, .cons hfirst.2 hparts, ?_⟩
    · rw [List.map_cons, List.sum_cons, hsum, hfirst.1, List.length_cons, Int.natCast_add, Int.mul_add,
        Int.natCast_one, Int.mul_one, Int.add_comm]
    · rw [List.map_cons, List.flatten_cons, List.flatten_cons, hentries]

@[simp]
theorem Findings.report_empty : Findings.empty.report = Report.empty := rfl

namespace Audited

variable {α : Type} {audit : α → Audited}

@[simp]
theorem report_after (findings : Findings) (later : Audited) :
    (after findings later).findings.report = findings.report.append later.findings.report := rfl

@[simp]
theorem stop_after (findings : Findings) (later : Audited) : (after findings later).stop = later.stop := rfl

@[simp]
theorem output_stopped (stop : AuditStop) : (stopped stop).findings.output = [] := rfl

/-- Where an audit stops, nothing behind it is audited. -/
theorem each_cons_of_stopped {item : α} (h : (audit item).stop ≠ none) (rest : List α) :
    each audit (item :: rest) = audit item := by
  rw [each]
  split
  · next findings stop haudit => rw [haudit]
  · next findings haudit =>
    rw [haudit] at h
    exact absurd rfl h

/-- Behind a complete audit the rest is audited, and its findings come later. -/
theorem each_cons_of_complete {item : α} (h : (audit item).stop = none) (rest : List α) :
    each audit (item :: rest) = after (audit item).findings (each audit rest) := by
  rw [each]
  split
  · next findings stop haudit =>
    rw [haudit] at h
    cases h
  · next findings haudit => rw [haudit]

/-- Only an audit that comes to the end of an item comes to the end of all. -/
theorem each_cons_complete {item : α} {rest : List α} (h : (each audit (item :: rest)).stop = none) :
    (audit item).stop = none ∧ (each audit rest).stop = none := by
  by_cases hitem : (audit item).stop = none
  · rw [each_cons_of_complete hitem] at h
    exact ⟨hitem, h⟩
  · rw [each_cons_of_stopped hitem] at h
    exact absurd h hitem

/-- The report of a complete audit is put together from those of the items. -/
theorem each_report (reports : α → Report → Prop) {items : List α} (h : (each audit items).stop = none)
    (hreports : ∀ item ∈ items, (audit item).stop = none → reports item (audit item).findings.report) :
    ∃ parts, List.Forall₂ reports items parts ∧
      (each audit items).findings.report =
        ⟨(parts.map Report.files).sum, (parts.map Report.entries).flatten⟩ := by
  induction items with
  | nil => exact ⟨[], .nil, rfl⟩
  | cons item rest ih =>
    obtain ⟨hitem, hrest⟩ := each_cons_complete h
    obtain ⟨hfirst, hlater⟩ := List.forall_mem_cons.mp hreports
    obtain ⟨parts, hparts, hreport⟩ := ih hrest hlater
    refine ⟨_ :: parts, .cons (hfirst hitem) hparts, ?_⟩
    rw [each_cons_of_complete hitem, report_after, hreport]
    rfl

/-- Two audits stop for the same reason, if at all, and report the same. -/
structure Agrees (first second : Audited) : Prop where
  stop : first.stop = second.stop
  report : first.findings.report = second.findings.report

theorem Agrees.refl (audited : Audited) : Agrees audited audited := ⟨rfl, rfl⟩

theorem Agrees.after {first second : Audited} (h : Agrees first second) {findings findings' : Findings}
    (hreport : findings.report = findings'.report) :
    Agrees (after findings first) (after findings' second) :=
  ⟨h.stop, by rw [report_after, report_after, hreport, h.report]⟩

theorem Agrees.trans {first second third : Audited} (h : Agrees first second) (h' : Agrees second third) :
    Agrees first third :=
  ⟨h.stop.trans h'.stop, h.report.trans h'.report⟩

theorem each_singleton (item : α) : Agrees (each audit [item]) (audit item) := by
  by_cases hitem : (audit item).stop = none
  · rw [each_cons_of_complete hitem]
    exact ⟨hitem.symm, by simp [each, complete, Report.append, Report.empty]⟩
  · rw [each_cons_of_stopped hitem]
    exact Agrees.refl _

/-- Audits that agree on every item agree on the whole. -/
theorem each_agrees {audit' : α → Audited} {items : List α}
    (h : ∀ item ∈ items, Agrees (audit item) (audit' item)) :
    Agrees (each audit items) (each audit' items) := by
  induction items with
  | nil => exact Agrees.refl _
  | cons item rest ih =>
    obtain ⟨hfirst, hrest⟩ := List.forall_mem_cons.mp h
    by_cases hitem : (audit item).stop = none
    · have hitem' : (audit' item).stop = none := hfirst.stop ▸ hitem
      rw [each_cons_of_complete hitem, each_cons_of_complete hitem']
      exact (ih hrest).after hfirst.report
    · have hitem' : (audit' item).stop ≠ none := hfirst.stop ▸ hitem
      rw [each_cons_of_stopped hitem, each_cons_of_stopped hitem']
      exact hfirst

/-- If no audit stops, all of them together do not. -/
theorem each_complete {items : List α} (h : ∀ item ∈ items, (audit item).stop = none) :
    (each audit items).stop = none := by
  induction items with
  | nil => rfl
  | cons item rest ih =>
    obtain ⟨hitem, hrest⟩ := List.forall_mem_cons.mp h
    rw [each_cons_of_complete hitem, stop_after, ih hrest]

/-- An audit of a whole list that does not stop has not stopped anywhere in it. -/
theorem complete_of_each {items : List α} (h : (each audit items).stop = none) :
    ∀ item ∈ items, (audit item).stop = none := by
  induction items with
  | nil => exact List.forall_mem_nil _
  | cons item rest ih =>
    obtain ⟨hitem, hrest⟩ := each_cons_complete h
    exact List.forall_mem_cons.mpr ⟨hitem, ih hrest⟩

/-- The report on two groups of items is that on the first followed by that on the second. -/
theorem each_append {first second : List α} (h : (each audit (first ++ second)).stop = none) :
    (each audit (first ++ second)).findings.report =
      (each audit first).findings.report.append (each audit second).findings.report := by
  induction first with
  | nil => simp [each, complete, Report.append, Report.empty]
  | cons item rest ih =>
    obtain ⟨hitem, hrest⟩ := each_cons_complete h
    rw [List.cons_append, each_cons_of_complete hitem, each_cons_of_complete hitem, report_after,
      report_after, ih hrest]
    simp [Report.append, Int.add_assoc]

/-- What is in a report, complete or not, has been reported for one of the items. -/
theorem mem_each_entries {items : List α} {entry : ReportEntry}
    (h : entry ∈ (each audit items).findings.report.entries) :
    ∃ item ∈ items, entry ∈ (audit item).findings.report.entries := by
  induction items with
  | nil => exact absurd h List.not_mem_nil
  | cons item rest ih =>
    by_cases hitem : (audit item).stop = none
    · rw [each_cons_of_complete hitem, report_after] at h
      obtain hfirst | hlater := List.mem_append.mp h
      · exact ⟨item, List.mem_cons_self, hfirst⟩
      · obtain ⟨later, hmem, hentry⟩ := ih hlater
        exact ⟨later, List.mem_cons_of_mem item hmem, hentry⟩
    · rw [each_cons_of_stopped hitem] at h
      exact ⟨item, List.mem_cons_self, h⟩

/-- Where no audit prints anything, all of them together print nothing. -/
theorem each_output_nil (h : ∀ item, (audit item).findings.output = []) (items : List α) :
    (each audit items).findings.output = [] := by
  induction items with
  | nil => rfl
  | cons item rest ih =>
    by_cases hitem : (audit item).stop = none
    · rw [each_cons_of_complete hitem]
      exact List.append_eq_nil_iff.mpr ⟨h item, ih⟩
    · rw [each_cons_of_stopped hitem, h item]

/-- An audit stops where the first of its items does, and for the same reason. -/
theorem each_stop_iff {items : List α} {stop : AuditStop} :
    (each audit items).stop = some stop ↔
      ∃ before item, Reaches (fun item => (audit item).stop = none) items before item ∧
        (audit item).stop = some stop := by
  induction items with
  | nil => exact iff_of_false (fun h => by cases h) not_exists_reaches_nil
  | cons first rest ih =>
    rw [exists_reaches_cons_iff, ← ih]
    by_cases hfirst : (audit first).stop = none
    · rw [each_cons_of_complete hfirst, stop_after]
      simp [hfirst]
    · rw [each_cons_of_stopped hfirst]
      simp [hfirst]

/-- An audit that stops at an item has printed what is printed for the items before it and for that one. -/
theorem each_output_of_reaches {items before : List α} {item : α}
    (h : Reaches (fun item => (audit item).stop = none) items before item)
    (hstop : (audit item).stop ≠ none) :
    (each audit items).findings.output =
      (each audit before).findings.output ++ (audit item).findings.output := by
  induction items generalizing before with
  | nil => exact absurd h not_reaches_nil
  | cons first rest ih =>
    obtain ⟨rfl, rfl⟩ | ⟨hfirst, later, rfl, hlater⟩ := reaches_cons_iff.mp h
    · rw [each_cons_of_stopped hstop]
      rfl
    · rw [each_cons_of_complete hfirst, each_cons_of_complete hfirst]
      show (audit first).findings.output ++ (each audit rest).findings.output = _
      rw [ih hlater, ← List.append_assoc]
      rfl

/-- What is printed for items that are audited to their ends is put together from what is printed for
    each. -/
theorem each_prints {prints : α → Text → Prop} {items : List α}
    (h : ∀ item ∈ items, (audit item).stop = none ∧ prints item (audit item).findings.output) :
    Concatenates prints items (each audit items).findings.output := by
  induction items with
  | nil => exact ⟨[], .nil, rfl⟩
  | cons first rest ih =>
    obtain ⟨⟨hfirst, hprints⟩, hrest⟩ := List.forall_mem_cons.mp h
    obtain ⟨parts, hparts, hwhole⟩ := ih hrest
    rw [each_cons_of_complete hfirst]
    refine ⟨(audit first).findings.output :: parts, .cons hprints hparts, ?_⟩
    rw [List.flatten_cons, ← hwhole]
    rfl

end Audited

end TemplateAudit
