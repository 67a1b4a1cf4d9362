import Mathlib.Data.List.Sort
import Mathlib.Data.String.Basic
import TemplateAudit.Proofs.Diagnostic.Scan
import TemplateAudit.Rule.Selection

namespace TemplateAudit

theorem Text.le_iff {a b : Text} : Text.le a b = true ↔ a ≤ b := by
  rw [Text.le, Bool.not_eq_true', decide_eq_false_iff_not, not_lt]

theorem Text.pairwise_mergeSort (names : List Text) : (names.mergeSort Text.le).Pairwise (· ≤ ·) := by
  have htrans : ∀ a b c : Text, Text.le a b → Text.le b c → Text.le a c := by
    intro a b c hab hbc
    rw [Text.le_iff] at hab hbc ⊢
    exact le_trans hab hbc
  have htotal : ∀ a b : Text, Text.le a b || Text.le b a := by
    intro a b
    rw [Bool.or_eq_true, Text.le_iff, Text.le_iff]
    exact le_total a b
  exact (List.pairwise_mergeSort htrans htotal names).imp Text.le_iff.mp

theorem Text.nodup_eraseDups (names : List Text) : names.eraseDups.Nodup := by
  induction hlength : names.length using Nat.strong_induction_on generalizing names with
  | h length ih =>
    cases names with
    | nil => simp
    | cons name rest =>
      rw [List.eraseDups_cons, List.nodup_cons]
      constructor
      · simp [List.mem_eraseDups]
      · have hle := List.length_filter_le (fun other => !other == name) rest
        rw [List.length_cons] at hlength
        exact ih _ (by omega) _ rfl

/-- Joining is putting the separator between the parts. -/
theorem Text.join_eq_intercalate (separator : Text) (parts : List Text) :
    Text.join separator parts = separator.intercalate parts := by
  fun_induction Text.join separator parts with
  | case1 => rfl
  | case2 part => simp [List.intercalate]
  | case3 part rest hrest ih =>
    obtain ⟨next, rest, rfl⟩ := List.exists_cons_of_ne_nil (fun hnil => hrest hnil)
    simp [ih, List.intercalate]

theorem UnknownRules.message_eq (error : UnknownRules) :
    error.message = "Unknown rule(s): " ++ List.intercalate ", " error.names := by
  unfold UnknownRules.message
  rw [Text.join_eq_intercalate]

namespace Rule

/-- The unknown names are the disabled ones that no rule has. -/
theorem mem_unknownNames_iff {disabled : List Text} {rules : List Rule} {name : Text} :
    name ∈ unknownNames disabled rules ↔ name ∈ disabled ∧ ∀ rule ∈ rules, rule.name ≠ name := by
  simp [unknownNames, List.mem_mergeSort, List.mem_eraseDups]

/-- The unknown names ascend, so none is told twice. -/
theorem pairwise_unknownNames (disabled : List Text) (rules : List Rule) :
    (unknownNames disabled rules).Pairwise (· < ·) := by
  unfold unknownNames
  generalize (disabled.filter fun name => !(rules.map Rule.name).contains name) = names
  have hdistinct := (List.mergeSort_perm names.eraseDups Text.le).nodup_iff.mpr (Text.nodup_eraseDups names)
  refine ((Text.pairwise_mergeSort names.eraseDups).and hdistinct).imp ?_
  rintro a b ⟨hle, hne⟩
  exact lt_of_le_of_ne hle hne

/-- Rules are selected if all names are known, and refused otherwise. -/
theorem select_cases (disabled : List Text) (rules : List Rule) :
    (unknownNames disabled rules = [] ∧
        select disabled rules = .ok (rules.filter fun rule => !disabled.contains rule.name)) ∨
      (unknownNames disabled rules ≠ [] ∧
        select disabled rules = .error ⟨unknownNames disabled rules⟩) := by
  unfold select
  split
  · next hnone => exact .inl ⟨hnone, rfl⟩
  · next hsome => exact .inr ⟨hsome, rfl⟩

/-- Selecting rules fails exactly when a disabled name is unknown. -/
theorem exists_select_eq_error_iff {disabled : List Text} {rules : List Rule} :
    (∃ error, select disabled rules = .error error) ↔
      ∃ name ∈ disabled, ∀ rule ∈ rules, rule.name ≠ name := by
  obtain ⟨hnone, hselect⟩ | ⟨hsome, hselect⟩ := select_cases disabled rules
  · refine iff_of_false ?_ ?_
    · rintro ⟨error, herror⟩
      simp [hselect] at herror
    · rintro ⟨name, hname⟩
      have hmem := mem_unknownNames_iff.mpr hname
      simp [hnone] at hmem
  · obtain ⟨name, hname⟩ := List.exists_mem_of_ne_nil _ hsome
    exact iff_of_true ⟨_, hselect⟩ ⟨name, mem_unknownNames_iff.mp hname⟩

/-- Only the set of disabled names matters. -/
theorem select_congr {disabled disabled' : List Text} (h : ∀ name, name ∈ disabled' ↔ name ∈ disabled)
    (rules : List Rule) : select disabled' rules = select disabled rules := by
  have hunknown : unknownNames disabled' rules = unknownNames disabled rules := by
    refine (pairwise_unknownNames disabled' rules).eq_of_mem_iff (pairwise_unknownNames disabled rules) ?_
    intro name
    rw [mem_unknownNames_iff, mem_unknownNames_iff, h]
  have hcontains (name : Text) : disabled'.contains name = disabled.contains name := by
    rw [Bool.eq_iff_iff, List.contains_iff_mem, List.contains_iff_mem, h]
  simp only [select, hunknown, hcontains]

/-- The failures of two rules are told apart by the names of the rules, and by nothing else. -/
theorem failureRecord_eq_iff {rule rule' : Rule} :
    rule.failureRecord = rule'.failureRecord ↔ rule.name = rule'.name := by
  simp [failureRecord]

end Rule

/-- Leaving out rules by name leaves out the diagnostics with their names. -/
theorem flatMap_diagnose_filter (text : Text) (keep : Text → Bool) (rules : List Rule) :
    ((rules.filter (keep ·.name)).flatMap fun rule => (rule.find text).offsets.map rule.diagnose) =
      (rules.flatMap fun rule => (rule.find text).offsets.map rule.diagnose).filter (keep ·.rule) := by
  induction rules with
  | nil => rfl
  | cons rule rest ih =>
    have hnamed : ∀ diagnostic ∈ (rule.find text).offsets.map rule.diagnose,
        diagnostic.rule = rule.name := by
      intro diagnostic hdiagnostic
      obtain ⟨offset, _, rfl⟩ := List.mem_map.mp hdiagnostic
      rfl
    rw [List.flatMap_cons, List.filter_append, ← ih, List.filter_cons]
    cases hkeep : keep rule.name with
    | true =>
      have hall : ((rule.find text).offsets.map rule.diagnose).filter (keep ·.rule) =
          (rule.find text).offsets.map rule.diagnose := by
        refine List.filter_eq_self.mpr fun diagnostic hdiagnostic => ?_
        rw [hnamed diagnostic hdiagnostic, hkeep]
      rw [hall]
      rfl
    | false =>
      have hnone : ((rule.find text).offsets.map rule.diagnose).filter (keep ·.rule) = [] := by
        refine List.filter_eq_nil_iff.mpr fun diagnostic hdiagnostic => ?_
        rw [hnamed diagnostic hdiagnostic, hkeep]
        exact Bool.false_ne_true
      rw [hnone]
      rfl

/-- Leaving out disabled rules leaves out the records of their failures. -/
theorem failureRecords_filter (text : Text) (disabled : List Text) (rules : List Rule) :
    failureRecords text (rules.filter fun rule => !disabled.contains rule.name) =
      (failureRecords text rules).filter fun record =>
        !rules.any fun rule => disabled.contains rule.name && record == rule.failureRecord := by
  rw [failureRecords, failureRecords, List.filter_map, List.filter_filter, List.filter_filter]
  congr 1
  apply List.filter_congr
  intro rule hrule
  have hdisabled : (rules.any fun other =>
      disabled.contains other.name && rule.failureRecord == other.failureRecord) =
        disabled.contains rule.name := by
    rw [Bool.eq_iff_iff, List.any_eq_true]
    constructor
    · rintro ⟨other, _, hother⟩
      simp only [Bool.and_eq_true, beq_iff_eq, Rule.failureRecord_eq_iff] at hother
      rw [hother.2]
      exact hother.1
    · intro hcontains
      exact ⟨rule, hrule, by rw [hcontains]; simp⟩
  rw [Function.comp_apply, hdisabled, Bool.and_comm]

/-- A run without disabled rules is the full run without what they add. Selecting the rules fails exactly
    when a disabled name is the name of no rule, and then tells those names in ascending order; otherwise
    the rules that are left give the diagnostics and the failures of the full run but for those of disabled
    rules. Order and repetition of the disabled names do not matter. -/
theorem findDeprecations_select {text : Text} {rules : List Rule} {found : List Diagnostic}
    (hfound : (findDeprecations text rules).value = .ok found) (disabled : List Text) :
    ((∃ error, Rule.select disabled rules = .error error) ↔
      ∃ name ∈ disabled, ∀ rule ∈ rules, rule.name ≠ name) ∧
    (∀ error, Rule.select disabled rules = .error error →
      error.names.Pairwise (· < ·) ∧
      (∀ name, name ∈ error.names ↔ name ∈ disabled ∧ ∀ rule ∈ rules, rule.name ≠ name) ∧
      error.message = "Unknown rule(s): " ++ List.intercalate ", " error.names) ∧
    (∀ selected, Rule.select disabled rules = .ok selected →
      (findDeprecations text selected).value =
          .ok (found.filter fun diagnostic => !disabled.contains diagnostic.rule) ∧
      (findDeprecations text selected).log =
          (findDeprecations text rules).log.filter fun record =>
            !rules.any fun rule => disabled.contains rule.name && record == rule.failureRecord) ∧
    ∀ disabled', (∀ name, name ∈ disabled' ↔ name ∈ disabled) →
      Rule.select disabled' rules = Rule.select disabled rules := by
  refine ⟨Rule.exists_select_eq_error_iff, fun error herror => ?_, fun selected hselected => ?_,
    fun disabled' hsame => Rule.select_congr hsame rules⟩
  · obtain ⟨_, hselect⟩ | ⟨_, hselect⟩ := Rule.select_cases disabled rules
    · rw [hselect] at herror
      cases herror
    · rw [hselect] at herror
      obtain rfl := Except.error.inj herror
      exact ⟨Rule.pairwise_unknownNames disabled rules, fun name => Rule.mem_unknownNames_iff,
        UnknownRules.message_eq _⟩
  · obtain ⟨_, hselect⟩ | ⟨_, hselect⟩ := Rule.select_cases disabled rules
    · rw [hselect] at hselected
      obtain rfl := Except.ok.inj hselected
      have hrun := not_refused_of_ok hfound
      have hleft : ∀ rule ∈ rules.filter (fun rule => !disabled.contains rule.name), ∀ error,
          rule.find text ≠ .refused error := fun rule hrule => hrun rule (List.mem_filter.mp hrule).1
      rw [findDeprecations_of_not_refused hrun] at hfound
      obtain rfl := Except.ok.inj hfound
      rw [findDeprecations_of_not_refused hleft, findDeprecations_log_of_not_refused hleft,
        findDeprecations_log_of_not_refused hrun]
      exact ⟨congrArg Except.ok (flatMap_diagnose_filter text (!disabled.contains ·) rules),
        failureRecords_filter text disabled rules⟩
    · rw [hselect] at hselected
      cases hselected

/-- Two rules share a name, one fails and one is disabled twice; a name that no rule has is refused. -/
theorem findDeprecations_select_shared :
    let first : Rule := ⟨"a", "t", fun _ => .found [4], ⟨"m", []⟩, by decide, by decide⟩
    let broken : Rule := ⟨"b", "t", fun _ => .failed, ⟨"m", []⟩, by decide, by decide⟩
    let second : Rule := ⟨"a", "tt", fun _ => .found [0], ⟨"n", []⟩, by decide, by decide⟩
    let last : Rule := ⟨"c", "t", fun _ => .found [1, 2], ⟨"m", []⟩, by decide, by decide⟩
    (findDeprecations "x" [first, broken, second, last]).value =
        .ok [⟨"a", 4, 5, ⟨"m", []⟩⟩, ⟨"a", 0, 2, ⟨"n", []⟩⟩, ⟨"c", 1, 2, ⟨"m", []⟩⟩, ⟨"c", 2, 3, ⟨"m", []⟩⟩] ∧
      (∃ selected, Rule.select ["c", "b", "c"] [first, broken, second, last] = .ok selected ∧
        (findDeprecations "x" selected).value = .ok [⟨"a", 4, 5, ⟨"m", []⟩⟩, ⟨"a", 0, 2, ⟨"n", []⟩⟩] ∧
        (findDeprecations "x" selected).log = []) ∧
      ∃ error, Rule.select ["c", "d"] [first, broken, second, last] = .error error := by
  intro first broken second last
  have hfound : (findDeprecations "x" [first, broken, second, last]).value =
      .ok [⟨"a", 4, 5, ⟨"m", []⟩⟩, ⟨"a", 0, 2, ⟨"n", []⟩⟩, ⟨"c", 1, 2, ⟨"m", []⟩⟩,
        ⟨"c", 2, 3, ⟨"m", []⟩⟩] := rfl
  refine ⟨hfound, ?_, ?_⟩
  · obtain ⟨hfails, _, hkeeps, _⟩ := findDeprecations_select hfound ["c", "b", "c"]
    cases hselect : Rule.select ["c", "b", "c"] [first, broken, second, last] with
    | error error =>
      obtain ⟨name, hname, hunknown⟩ := hfails.mp ⟨error, hselect⟩
      have hknown : ∀ name ∈ ["c".toList, "b", "c"], ∃ rule ∈ [first, broken, second, last],
          rule.name = name := by
        simp [first, broken, second, last]
      obtain ⟨rule, hrule, heq⟩ := hknown name hname
      exact absurd heq (hunknown rule hrule)
    | ok selected =>
      obtain ⟨hvalue, hlog⟩ := hkeeps selected hselect
      exact ⟨selected, rfl, hvalue, hlog⟩
  · obtain ⟨hfails, _⟩ := findDeprecations_select hfound ["c", "d"]
    refine hfails.mpr ⟨"d", by simp, ?_⟩
    simp [first, broken, second, last]

end TemplateAudit
