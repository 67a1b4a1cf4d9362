import Mathlib.Data.List.Forall2
import TemplateAudit.Proofs.Diagnostic.Scan

namespace TemplateAudit

/-- The matches of the rule in a fragment, in the order of its finder. -/
def Rule.reports (rule : Rule) (fragment : Fragment) : List LocatedDiagnostic :=
  match rule.find fragment.text with
  | .found offsets => offsets.map fun offset =>
    { rule := rule.name
      start := fragment.baseOffset + offset
      stop := fragment.baseOffset + offset + rule.token.length
      message := rule.message
      path := fragment.path }
  | .refused _ => []
  | .failed => []

/-- What a rule reports of a fragment is what it finds there, located. -/
theorem Rule.reports_eq (rule : Rule) (fragment : Fragment) :
    rule.reports fragment =
      ((rule.find fragment.text).offsets.map rule.diagnose).map (·.locate fragment) := by
  unfold Rule.reports
  cases rule.find fragment.text with
  | found offsets =>
    simp only [FinderOutcome.offsets, List.map_map]
    apply List.map_congr_left
    intro offset _
    simp only [Function.comp_apply, Rule.diagnose, Diagnostic.locate, Int.add_assoc]
  | refused error => rfl
  | failed => rfl

theorem Rule.reports_of_fails {rule : Rule} {fragment : Fragment}
    (h : rule.fails fragment.text = true) : rule.reports fragment = [] := by
  have hfind : rule.find fragment.text = .failed := by simpa [Rule.fails] using h
  simp only [Rule.reports, hfind]

theorem scan_value_of_not_refused {fragment : Fragment} {rules : List Rule}
    (h : ∀ rule ∈ rules, ∀ error, rule.find fragment.text ≠ .refused error) :
    (scan fragment rules).value = .ok (rules.flatMap (·.reports fragment)) := by
  rw [scan_of_not_refused h, List.map_flatMap]
  simp only [Rule.reports_eq]

/-- Rules that break down are as good as absent. -/
theorem flatMap_reports_filter (fragment : Fragment) (rules : List Rule) :
    (rules.filter (!·.fails fragment.text)).flatMap (·.reports fragment) =
      rules.flatMap (·.reports fragment) := by
  induction rules with
  | nil => rfl
  | cons rule rest ih =>
    rw [List.filter_cons, List.flatMap_cons]
    cases hfails : rule.fails fragment.text with
    | true => simp [ih, Rule.reports_of_fails hfails]
    | false => simp [ih]

theorem level_of_mem_failureRecords {text : Text} {rules : List Rule} {record : LogRecord}
    (h : record ∈ failureRecords text rules) : record.level = .error := by
  obtain ⟨rule, _, rfl⟩ := List.mem_map.mp h
  rfl

/-- Each rule that breaks down is logged once, and nothing else is an error. -/
theorem scan_errors_of_not_refused {fragment : Fragment} {rules : List Rule}
    (h : ∀ rule ∈ rules, ∀ error, rule.find fragment.text ≠ .refused error) :
    (scan fragment rules).log.filter (·.level == .error) = failureRecords fragment.text rules := by
  have hfailures : (failureRecords fragment.text rules).filter (·.level == .error) =
      failureRecords fragment.text rules := by
    refine List.filter_eq_self.mpr fun record hrecord => ?_
    simpa using level_of_mem_failureRecords hrecord
  simp only [scan, findDeprecations_of_not_refused h, findDeprecations_log_of_not_refused h,
    List.filter_append, hfailures]
  split
  · simp
  · simp [Fragment.matchesRecord, LogLevel.debug, LogLevel.error]

/-- The first refusal ends the scan, and only the rules before it have been run. -/
theorem scan_of_first_refusal {fragment : Fragment} {before after : List Rule} {rule : Rule}
    {error : ArgumentError}
    (hbefore : ∀ earlier ∈ before, ∀ error, earlier.find fragment.text ≠ .refused error)
    (hrule : rule.find fragment.text = .refused error) :
    scan fragment (before ++ rule :: after) = ⟨failureRecords fragment.text before, .error error⟩ := by
  simp only [scan, findDeprecations_of_first_refusal hbefore hrule]

/-- The notice tells the diagnostic with its message rendered. -/
structure ScanNotice.Tells (style : SlotStyle) (diagnostic : LocatedDiagnostic) (notice : ScanNotice) :
    Prop where
  start : notice.start = diagnostic.start
  stop : notice.stop = diagnostic.stop
  message : diagnostic.message.render style = .ok notice.message

/-- Diagnostics whose messages can be rendered are told before those behind them are looked at. -/
theorem notices_append {style : SlotStyle} {located : List LocatedDiagnostic}
    (h : ∀ diagnostic ∈ located, ∃ message, diagnostic.message.render style = .ok message)
    (rest : List LocatedDiagnostic) :
    ∃ told, List.Forall₂ (ScanNotice.Tells style) located told ∧
      notices style (located ++ rest) = (told ++ (notices style rest).1, (notices style rest).2) := by
  induction located with
  | nil => exact ⟨[], .nil, rfl⟩
  | cons diagnostic located ih =>
    obtain ⟨⟨message, hmessage⟩, hlocated⟩ := List.forall_mem_cons.mp h
    obtain ⟨told, htold, hnotices⟩ := ih hlocated
    refine ⟨⟨diagnostic.start, diagnostic.stop, message⟩ :: told, .cons ⟨rfl, rfl, hmessage⟩ htold, ?_⟩
    simp only [List.cons_append, notices, hmessage, hnotices]

/-- If all messages render, all findings are told and counted. -/
theorem scanInto_of_rendered {fragment : Fragment} {rules : List Rule} {style : SlotStyle}
    {located : List LocatedDiagnostic} (hscan : (scan fragment rules).value = .ok located)
    (h : ∀ diagnostic ∈ located, ∃ message, diagnostic.message.render style = .ok message) :
    ∃ told, List.Forall₂ (ScanNotice.Tells style) located told ∧
      scanInto fragment rules style = ⟨(scan fragment rules).log, ⟨told, .ok located.length⟩⟩ := by
  obtain ⟨told, htold, hnotices⟩ := notices_append h []
  rw [List.append_nil] at hnotices
  simp only [notices, List.append_nil] at hnotices
  exact ⟨told, htold, by simp only [scanInto, hscan, hnotices]⟩

/-- A message that does not render ends the telling, and the findings before it are told. -/
theorem scanInto_of_unrendered {fragment : Fragment} {rules : List Rule} {style : SlotStyle}
    {before after : List LocatedDiagnostic} {diagnostic : LocatedDiagnostic} {error : TemplateError}
    (hscan : (scan fragment rules).value = .ok (before ++ diagnostic :: after))
    (hbefore : ∀ earlier ∈ before, ∃ message, earlier.message.render style = .ok message)
    (hdiagnostic : diagnostic.message.render style = .error error) :
    ∃ told, List.Forall₂ (ScanNotice.Tells style) before told ∧
      scanInto fragment rules style =
        ⟨(scan fragment rules).log, ⟨told, .error (.template error)⟩⟩ := by
  obtain ⟨told, htold, hnotices⟩ := notices_append hbefore (diagnostic :: after)
  simp only [notices, hdiagnostic, List.append_nil] at hnotices
  exact ⟨told, htold, by simp only [scanInto, hscan, hnotices]⟩

/-- Rules are isolated from one another. Unless a finder refuses its arguments, a scan reports the
    matches of every rule in order, rules that break down add nothing but one error record each, and the
    reports are those of a scan without them. The first refusal ends the scan after the failures before
    it. The sink is told every report with its message, and their number, or the reports before the first
    message that cannot be rendered. -/
theorem scan_isolates_rules (fragment : Fragment) (rules : List Rule) (style : SlotStyle) :
    ((∀ rule ∈ rules, ∀ error, rule.find fragment.text ≠ .refused error) →
      (scan fragment rules).value = .ok (rules.flatMap (·.reports fragment)) ∧
      (scan fragment (rules.filter (!·.fails fragment.text))).value = (scan fragment rules).value ∧
      (scan fragment rules).log.filter (·.level == .error) =
        (rules.filter (·.fails fragment.text)).map Rule.failureRecord) ∧
    ((∃ rule ∈ rules, ∃ error, rule.find fragment.text = .refused error) →
      ∃ before rule after error, rules = before ++ rule :: after ∧
        (∀ earlier ∈ before, ∀ error, earlier.find fragment.text ≠ .refused error) ∧
        rule.find fragment.text = .refused error ∧
        scan fragment rules =
          ⟨(before.filter (·.fails fragment.text)).map Rule.failureRecord, .error error⟩) ∧
    (∀ error, (scan fragment rules).value = .error error →
      scanInto fragment rules style = ⟨(scan fragment rules).log, ⟨[], .error (.argument error)⟩⟩) ∧
    ∀ located, (scan fragment rules).value = .ok located →
      ((∀ diagnostic ∈ located, ∃ message, diagnostic.message.render style = .ok message) →
        ∃ told, List.Forall₂ (ScanNotice.Tells style) located told ∧
          scanInto fragment rules style = ⟨(scan fragment rules).log, ⟨told, .ok located.length⟩⟩) ∧
      ∀ before diagnostic after error, located = before ++ diagnostic :: after →
        (∀ earlier ∈ before, ∃ message, earlier.message.render style = .ok message) →
        diagnostic.message.render style = .error error →
        ∃ told, List.Forall₂ (ScanNotice.Tells style) before told ∧
          scanInto fragment rules style =
            ⟨(scan fragment rules).log, ⟨told, .error (.template error)⟩⟩ := by
  refine ⟨fun h => ?_, fun h => ?_, fun error hscan => ?_, fun located hscan => ⟨?_, ?_⟩⟩
  · have hkept : ∀ rule ∈ rules.filter (!·.fails fragment.text), ∀ error,
        rule.find fragment.text ≠ .refused error :=
      fun rule hrule => h rule (List.mem_filter.mp hrule).1
    refine ⟨scan_value_of_not_refused h, ?_, scan_errors_of_not_refused h⟩
    rw [scan_value_of_not_refused h, scan_value_of_not_refused hkept, flatMap_reports_filter]
  · obtain ⟨before, rule, after, error, rfl, hbefore, hrule⟩ := exists_first_refusal h
    exact ⟨before, rule, after, error, rfl, hbefore, hrule, scan_of_first_refusal hbefore hrule⟩
  · simp only [scanInto, hscan]
  · exact scanInto_of_rendered hscan
  · rintro before diagnostic after error rfl
    exact scanInto_of_unrendered hscan

/-- A rule that breaks down between two that match, the second with a message that cannot be rendered:
    the scan reports both and logs the failure, and the sink is told the reports of the first alone. Right
    behind the failure a refusal ends the scan. -/
theorem scan_isolates_rules_mixed :
    let fragment : Fragment := ⟨"<p>", -7, .inline, none⟩
    let first : Rule := ⟨"a", "tt", fun _ => .found [5, -1], ⟨"m", []⟩, by decide, by decide⟩
    let broken : Rule := ⟨"b", "t", fun _ => .failed, ⟨"m", []⟩, by decide, by decide⟩
    let last : Rule := ⟨"c", "t", fun _ => .found [2], ⟨"\x7b", []⟩, by decide, by decide⟩
    let refusing : Rule := ⟨"d", "t", fun _ => .refused .emptyNeedle, ⟨"m", []⟩, by decide, by decide⟩
    (scan fragment [first, broken, last]).value =
        .ok [⟨"a", -2, 0, ⟨"m", []⟩, none⟩, ⟨"a", -8, -6, ⟨"m", []⟩, none⟩,
          ⟨"c", -5, -4, ⟨"\x7b", []⟩, none⟩] ∧
      (scan fragment [first, broken, last]).log.filter (·.level == .error) = [broken.failureRecord] ∧
      (scanInto fragment [first, broken, last] .plain).value.delivered.length = 2 ∧
      (scanInto fragment [first, broken, last] .plain).value.outcome = .error (.template .loneOpening) ∧
      ∃ error, scan fragment [broken, refusing, first] = ⟨[broken.failureRecord], .error error⟩ := by
  intro fragment first broken last refusing
  have hrun : ∀ rule ∈ [first, broken, last], ∀ error, rule.find fragment.text ≠ .refused error := by
    simp [first, broken, last]
  have hrendered : Message.render ⟨"m", []⟩ .plain = .ok "m".toList := by decide +kernel
  have hunrendered : Message.render ⟨"\x7b", []⟩ .plain = .error .loneOpening := by decide +kernel
  obtain ⟨hreports, _, _, hdelivery⟩ := scan_isolates_rules fragment [first, broken, last] .plain
  obtain ⟨hvalue, _, hlog⟩ := hreports hrun
  have hearlier : ∀ earlier ∈ first.reports fragment, ∃ message,
      earlier.message.render .plain = .ok message := by
    intro earlier hearlier
    obtain ⟨_, _, rfl⟩ := List.mem_map.mp hearlier
    exact ⟨_, hrendered⟩
  obtain ⟨told, htold, hinto⟩ := (hdelivery _ hvalue).2 (first.reports fragment)
    ⟨"c", -5, -4, ⟨"\x7b", []⟩, none⟩ [] .loneOpening rfl hearlier hunrendered
  obtain ⟨_, hrefusal, _, _⟩ := scan_isolates_rules fragment [broken, refusing, first] .plain
  obtain ⟨before, rule, after, error, hrules, hbefore, hrule, hscan⟩ :=
    hrefusal ⟨refusing, by simp, _, rfl⟩
  refine ⟨hvalue, hlog, ?_, ?_, error, ?_⟩
  · rw [hinto]
    exact htold.length_eq.symm
  · rw [hinto]
  -- The failing rule refuses nothing, so the refusal stands right behind it.
  · obtain _ | ⟨earlier, before⟩ := before
    · obtain ⟨rfl, _⟩ := List.cons.inj hrules
      cases hrule
    · obtain ⟨rfl, hrest⟩ := List.cons.inj hrules
      obtain _ | ⟨later, before⟩ := before
      · exact hscan
      · obtain ⟨rfl, _⟩ := List.cons.inj hrest
        exact absurd rfl (hbefore refusing (by simp) .emptyNeedle)

end TemplateAudit
