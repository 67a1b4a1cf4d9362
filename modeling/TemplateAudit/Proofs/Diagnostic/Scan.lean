import TemplateAudit.Diagnostic.Scan

namespace TemplateAudit

/-- The offsets of an outcome; a finder that did not come to an end has none. -/
def FinderOutcome.offsets : FinderOutcome → List Int
  | .found offsets => offsets
  | .refused _ => []
  | .failed => []

@[simp]
theorem FinderOutcome.offsets_found (offsets : List Int) : (found offsets).offsets = offsets := rfl

/-- Whether the finder of the rule breaks down on a text. -/
def Rule.fails (rule : Rule) (text : Text) : Bool := rule.find text == .failed

/-- The records of the rules that break down on a text, in the order of the rules. -/
def failureRecords (text : Text) (rules : List Rule) : List LogRecord :=
  (rules.filter (·.fails text)).map Rule.failureRecord

/-- Rules that do not refuse their arguments are done with before the rules behind them run. -/
theorem findDeprecations_append {text : Text} {rules : List Rule}
    (h : ∀ rule ∈ rules, ∀ error, rule.find text ≠ .refused error) (rest : List Rule) :
    findDeprecations text (rules ++ rest) =
      ⟨failureRecords text rules ++ (findDeprecations text rest).log,
        (findDeprecations text rest).value.map
          ((rules.flatMap fun rule => (rule.find text).offsets.map rule.diagnose) ++ ·)⟩ := by
  induction rules with
  | nil =>
    cases hrest : (findDeprecations text rest).value <;> simp [failureRecords, Except.map, ← hrest]
  | cons rule rules ih =>
    obtain ⟨hrule, hrules⟩ := List.forall_mem_cons.mp h
    rw [List.cons_append, findDeprecations, ih hrules, List.flatMap_cons]
    cases hfind : rule.find text with
    | found offsets =>
      have hruns : rule.fails text = false := by simp [Rule.fails, hfind]
      simp only [failureRecords, List.filter_cons, hruns]
      cases (findDeprecations text rest).value with
      | error error => rfl
      | ok found => simp [Except.map, FinderOutcome.offsets]
    | refused error => exact absurd hfind (hrule error)
    | failed =>
      have hfails : rule.fails text = true := by simp [Rule.fails, hfind]
      simp [failureRecords, hfails, FinderOutcome.offsets]

/-- Unless a finder refuses its arguments, the diagnostics of the rules follow one another. -/
theorem findDeprecations_of_not_refused {text : Text} {rules : List Rule}
    (h : ∀ rule ∈ rules, ∀ error, rule.find text ≠ .refused error) :
    (findDeprecations text rules).value =
      .ok (rules.flatMap fun rule => (rule.find text).offsets.map rule.diagnose) := by
  have hrun := findDeprecations_append h []
  rw [List.append_nil] at hrun
  rw [hrun]
  simp [findDeprecations, Except.map]

/-- Unless a finder refuses its arguments, the log holds the failures and nothing else. -/
theorem findDeprecations_log_of_not_refused {text : Text} {rules : List Rule}
    (h : ∀ rule ∈ rules, ∀ error, rule.find text ≠ .refused error) :
    (findDeprecations text rules).log = failureRecords text rules := by
  have hrun := findDeprecations_append h []
  rw [List.append_nil] at hrun
  rw [hrun]
  simp [findDeprecations]

/-- A run that meets a refusal meets a first one. -/
theorem exists_first_refusal {text : Text} {rules : List Rule}
    (h : ∃ rule ∈ rules, ∃ error, rule.find text = .refused error) :
    ∃ (before : List Rule) (rule : Rule) (after : List Rule) (error : ArgumentError), rules = before ++ rule :: after ∧
      (∀ earlier ∈ before, ∀ error, earlier.find text ≠ .refused error) ∧
      rule.find text = .refused error := by
  induction rules with
  | nil => simp at h
  | cons rule rest ih =>
    by_cases hrule : ∃ error, rule.find text = .refused error
    · obtain ⟨error, herror⟩ := hrule
      exact ⟨[], rule, rest, error, rfl, by simp, herror⟩
    · have hlater : ∃ later ∈ rest, ∃ error, later.find text = .refused error := by
        obtain ⟨refusing, hmem, hrefuses⟩ := h
        obtain rfl | hmem := List.mem_cons.mp hmem
        · exact absurd hrefuses hrule
        · exact ⟨refusing, hmem, hrefuses⟩
      obtain ⟨before, refusing, after, error, rfl, hbefore, hfind⟩ := ih hlater
      refine ⟨rule :: before, refusing, after, error, rfl, ?_, hfind⟩
      exact List.forall_mem_cons.mpr ⟨not_exists.mp hrule, hbefore⟩

/-- The first refusal ends the run, and only the rules before it have been run. -/
theorem findDeprecations_of_first_refusal {text : Text} {before after : List Rule} {rule : Rule}
    {error : ArgumentError} (hbefore : ∀ earlier ∈ before, ∀ error, earlier.find text ≠ .refused error)
    (hrule : rule.find text = .refused error) :
    findDeprecations text (before ++ rule :: after) = ⟨failureRecords text before, .error error⟩ := by
  have hrefused : findDeprecations text (rule :: after) = ⟨[], .error error⟩ := by
    rw [findDeprecations, hrule]
  simp only [findDeprecations_append hbefore, hrefused, Except.map, List.append_nil]

/-- A scan that succeeds has been refused by no rule. -/
theorem not_refused_of_ok {text : Text} {rules : List Rule} {found : List Diagnostic}
    (h : (findDeprecations text rules).value = .ok found) :
    ∀ rule ∈ rules, ∀ error, rule.find text ≠ .refused error := by
  intro rule hrule error hrefuses
  obtain ⟨before, refusing, after, error, rfl, hbefore, hfind⟩ :=
    exists_first_refusal ⟨rule, hrule, error, hrefuses⟩
  rw [findDeprecations_of_first_refusal hbefore hfind] at h
  cases h

/-- A fragment only moves the diagnostics of its text. -/
theorem scan_of_not_refused {fragment : Fragment} {rules : List Rule}
    (h : ∀ rule ∈ rules, ∀ error, rule.find fragment.text ≠ .refused error) :
    (scan fragment rules).value =
      .ok ((rules.flatMap fun rule => (rule.find fragment.text).offsets.map rule.diagnose).map
        (·.locate fragment)) := by
  simp only [scan, findDeprecations_of_not_refused h]

/-- Every diagnostic of a scan comes from an offset that one of the rules has found. -/
theorem scan_of_found {fragment : Fragment} {rules : List Rule} {matched : Rule → Nat → Prop}
    (h : ∀ rule ∈ rules, ∃ offsets : List Nat,
      rule.find fragment.text = .found (offsets.map Int.ofNat) ∧ ∀ offset ∈ offsets, matched rule offset) :
    ∃ found, (scan fragment rules).value = .ok found ∧ ∀ diagnostic ∈ found,
      ∃ rule ∈ rules, ∃ offset : Nat, matched rule offset ∧
        diagnostic = (rule.diagnose offset).locate fragment := by
  have hrun : ∀ rule ∈ rules, ∀ error, rule.find fragment.text ≠ .refused error := by
    intro rule hrule error hrefused
    obtain ⟨offsets, hfind, _⟩ := h rule hrule
    rw [hfind] at hrefused
    cases hrefused
  refine ⟨_, scan_of_not_refused hrun, fun diagnostic hmem => ?_⟩
  obtain ⟨relative, hrelative, rfl⟩ := List.mem_map.mp hmem
  obtain ⟨rule, hrule, hoffsets⟩ := List.mem_flatMap.mp hrelative
  obtain ⟨place, hplace, rfl⟩ := List.mem_map.mp hoffsets
  obtain ⟨offsets, hfind, hmatched⟩ := h rule hrule
  rw [hfind, FinderOutcome.offsets_found] at hplace
  obtain ⟨offset, hoffset, rfl⟩ := List.mem_map.mp hplace
  exact ⟨rule, hrule, offset, hmatched offset hoffset, rfl⟩

end TemplateAudit
