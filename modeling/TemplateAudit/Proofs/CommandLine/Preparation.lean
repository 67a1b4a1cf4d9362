import TemplateAudit.CommandLine.Run
import TemplateAudit.Proofs.Rule.Selection
import TemplateAudit.Proofs.Steps

namespace TemplateAudit.CommandLine

variable {files : FileSystem} {options : Options} {settings : Settings} {rules : List Rule}

/-- If all names are there, the list is that of the names. -/
theorem eq_map_some_of_mapM_id {names : List (Option Text)} {named : List Text}
    (h : names.mapM id = some named) : names = named.map some := by
  induction names generalizing named with
  | nil =>
    obtain rfl := Option.some.inj h
    rfl
  | cons name rest ih =>
    rw [List.mapM_cons] at h
    obtain ⟨first, hfirst, h⟩ := Option.bind_eq_some_iff.mp h
    obtain ⟨later, hlater, h⟩ := Option.bind_eq_some_iff.mp h
    obtain rfl := Option.some.inj h
    rw [ih hlater, List.map_cons, ← hfirst]
    rfl

/-- If not all names are there, one is missing. -/
theorem mapM_id_eq_none {names : List (Option Text)} (h : names.mapM id = none) : none ∈ names := by
  induction names with
  | nil => cases h
  | cons name rest ih =>
    cases name with
    | none => exact List.mem_cons_self
    | some name =>
      cases hrest : rest.mapM id with
      | none => exact List.mem_cons_of_mem _ (ih hrest)
      | some later =>
        rw [List.mapM_cons, hrest] at h
        cases h

/-- The settings of a run: those in its file, or the default ones. -/
def loaded (files : FileSystem) (options : Options) : Except PreparationError Settings :=
  match options.config with
  | some path => (Settings.load files path).mapError .load
  | none => .ok {}

/-- The rules of a run with given settings. -/
def selected (options : Options) (settings : Settings) : Except PreparationError (Settings × List Rule) :=
  match options.disabled.mapM id with
  | none => .error .unnamedRule
  | some disabled =>
    (Rule.select (settings.disabledRules ++ disabled) Rule.builtin).mapError .rules >>= fun rules =>
      .ok (settings, rules)

/-- A run is prepared by loading its settings and selecting its rules. -/
theorem prepare_eq (files : FileSystem) (options : Options) :
    prepare files options = loaded files options >>= selected options := by
  have hselected : selected options = fun settings => match options.disabled.mapM id with
      | none => .error .unnamedRule
      | some disabled =>
        (Rule.select (settings.disabledRules ++ disabled) Rule.builtin).mapError .rules >>= fun rules =>
          .ok (settings, rules) := rfl
  rw [hselected, prepare, loaded]
  cases options.config <;> cases options.disabled.mapM id <;> rfl

theorem prepare_of_loaded (h : loaded files options = .ok settings) :
    prepare files options = selected options settings := by
  rw [prepare_eq, h]
  rfl

theorem selected_of_named {disabled : List Text} (h : options.disabled.mapM id = some disabled) :
    selected options settings =
      (Rule.select (settings.disabledRules ++ disabled) Rule.builtin).mapError .rules >>= fun rules =>
        .ok (settings, rules) := by
  rw [selected, h]

/-- A run cannot begin with a rule to leave out that has no name, or one that is not there. Otherwise its rules
    are the built-in ones that neither settings nor options disable. -/
theorem selected_cases (options : Options) (settings : Settings) :
    none ∈ options.disabled ∧ selected options settings = .error .unnamedRule ∨
      ∃ disabled, options.disabled = disabled.map some ∧
        ((∃ name ∈ settings.disabledRules ++ disabled, ∀ rule ∈ Rule.builtin, rule.name ≠ name) ∧
            selected options settings =
              .error (.rules ⟨Rule.unknownNames (settings.disabledRules ++ disabled) Rule.builtin⟩) ∨
          (∀ name ∈ settings.disabledRules ++ disabled, ∃ rule ∈ Rule.builtin, rule.name = name) ∧
            selected options settings = .ok (settings, Rule.builtin.filter fun rule =>
              !(settings.disabledRules ++ disabled).contains rule.name)) := by
  cases hnamed : options.disabled.mapM id with
  | none =>
    refine .inl ⟨mapM_id_eq_none hnamed, ?_⟩
    rw [selected, hnamed]
  | some disabled =>
    refine .inr ⟨disabled, eq_map_some_of_mapM_id hnamed, ?_⟩
    rw [selected_of_named hnamed]
    obtain ⟨hnone, hselect⟩ | ⟨hsome, hselect⟩ :=
      Rule.select_cases (settings.disabledRules ++ disabled) Rule.builtin
    · refine .inr ⟨fun name hname => ?_, by rw [hselect]; rfl⟩
      by_contra hunknown
      have hmem := Rule.mem_unknownNames_iff.mpr
        ⟨hname, fun rule hrule heq => hunknown ⟨rule, hrule, heq⟩⟩
      rw [hnone] at hmem
      exact absurd hmem List.not_mem_nil
    · obtain ⟨name, hname⟩ := List.exists_mem_of_ne_nil _ hsome
      exact .inl ⟨⟨name, Rule.mem_unknownNames_iff.mp hname⟩, by rw [hselect]; rfl⟩

/-- The settings of a run come from its file, if it names one, and its rules are the built-in ones that
    neither settings nor options disable. -/
theorem prepare_eq_ok (h : prepare files options = .ok (settings, rules)) :
    (∀ path ∈ options.config, Settings.load files path = .ok settings) ∧
    (options.config = none → settings = {}) ∧
    ∃ disabled, options.disabled = disabled.map some ∧
      rules = Rule.builtin.filter fun rule => !(settings.disabledRules ++ disabled).contains rule.name := by
  rw [prepare_eq] at h
  obtain ⟨settings', hloaded, hselected⟩ := ok_of_bind h
  obtain ⟨_, hunnamed⟩ | ⟨disabled, hdisabled, ⟨_, hunknown⟩ | ⟨_, hrules⟩⟩ := selected_cases options settings'
  · rw [hunnamed] at hselected
    cases hselected
  · rw [hunknown] at hselected
    cases hselected
  · rw [hrules] at hselected
    obtain ⟨rfl, rfl⟩ := Prod.mk.inj (Except.ok.inj hselected)
    unfold loaded at hloaded
    refine ⟨fun path hpath => ?_, fun hnone => ?_, disabled, hdisabled, rfl⟩
    · rw [Option.mem_def.mp hpath] at hloaded
      exact ok_of_mapError hloaded
    · rw [hnone] at hloaded
      exact (Except.ok.inj hloaded).symm

theorem mem_builtin_of_prepare (h : prepare files options = .ok (settings, rules)) :
    ∀ rule ∈ rules, rule ∈ Rule.builtin := by
  obtain ⟨_, _, disabled, _, rfl⟩ := prepare_eq_ok h
  exact fun rule hrule => (List.mem_filter.mp hrule).1

/-- With no settings to load and nothing to disable, a run has all the built-in rules. -/
theorem prepare_of_nothing_disabled (hconfig : options.config = none) (hdisabled : options.disabled = []) :
    prepare files options = .ok ({}, Rule.builtin) := by
  have hloaded : loaded files options = .ok {} := by rw [loaded, hconfig]
  have hselected : selected options {} = .ok ({}, Rule.builtin) := by
    obtain ⟨hunnamed, _⟩ | ⟨disabled, hnames, hcases⟩ := selected_cases options {}
    · rw [hdisabled] at hunnamed
      exact absurd hunnamed List.not_mem_nil
    · obtain rfl := List.map_eq_nil_iff.mp (hnames.symm.trans hdisabled)
      obtain ⟨⟨name, hname, _⟩, _⟩ | ⟨_, hrules⟩ := hcases
      · exact absurd hname List.not_mem_nil
      · have hall : (Rule.builtin.filter fun rule =>
            !(({} : Settings).disabledRules ++ []).contains rule.name) = Rule.builtin :=
          List.filter_eq_self.mpr fun _ _ => rfl
        rw [hrules, hall]
  exact (prepare_of_loaded hloaded).trans hselected

end TemplateAudit.CommandLine
