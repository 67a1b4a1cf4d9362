namespace TemplateAudit

/-- Steps succeed together where all of them do, one by one. -/
theorem bind_eq_ok_iff {ε α β : Type} {first : Except ε α} {next : α → Except ε β} {result : β} :
    first >>= next = .ok result ↔ ∃ value, first = .ok value ∧ next value = .ok result := by
  constructor
  · intro h
    cases first with
    | error error => cases h
    | ok value => exact ⟨value, rfl, h⟩
  · rintro ⟨value, rfl, h⟩
    exact h

theorem mapError_eq_ok_iff {ε ε' α : Type} {first : Except ε α} {change : ε → ε'} {result : α} :
    first.mapError change = .ok result ↔ first = .ok result := by
  cases first with
  | error cause => exact iff_of_false (fun h => by cases h) fun h => by cases h
  | ok value =>
    exact ⟨fun h => congrArg Except.ok (Except.ok.inj h), fun h => congrArg Except.ok (Except.ok.inj h)⟩

theorem ok_of_bind {ε α β : Type} {first : Except ε α} {next : α → Except ε β} {result : β}
    (h : first >>= next = .ok result) : ∃ value, first = .ok value ∧ next value = .ok result :=
  bind_eq_ok_iff.mp h

theorem ok_of_map {ε α β : Type} {first : Except ε α} {next : α → β} {result : β}
    (h : first.map next = .ok result) : ∃ value, first = .ok value ∧ next value = result := by
  cases first with
  | error error => cases h
  | ok value => exact ⟨value, rfl, Except.ok.inj h⟩

theorem ok_of_mapError {ε ε' α : Type} {first : Except ε α} {change : ε → ε'} {result : α}
    (h : first.mapError change = .ok result) : first = .ok result :=
  mapError_eq_ok_iff.mp h

/-- Steps fail together where one of them does. -/
theorem bind_eq_error_iff {ε α β : Type} {first : Except ε α} {next : α → Except ε β} {error : ε} :
    first >>= next = .error error ↔
      first = .error error ∨ ∃ value, first = .ok value ∧ next value = .error error := by
  cases first with
  | error other =>
    refine ⟨fun h => .inl (congrArg Except.error (Except.error.inj h)), ?_⟩
    rintro (h | ⟨value, hvalue, _⟩)
    · exact congrArg Except.error (Except.error.inj h)
    · cases hvalue
  | ok value =>
    refine ⟨fun h => .inr ⟨value, rfl, h⟩, ?_⟩
    rintro (h | ⟨other, hvalue, h⟩)
    · cases h
    · obtain rfl := Except.ok.inj hvalue
      exact h

theorem map_eq_error_iff {ε α β : Type} {first : Except ε α} {next : α → β} {error : ε} :
    first.map next = .error error ↔ first = .error error := by
  cases first <;> simp [Except.map]

/-- In the list the item comes right after `before`, all of which passes. -/
def Reaches {α : Type} (passes : α → Prop) (items before : List α) (item : α) : Prop :=
  (∃ after, items = before ++ item :: after) ∧ ∀ earlier ∈ before, passes earlier

section Reaches

variable {α : Type} {passes : α → Prop} {items before : List α} {item : α}

theorem not_reaches_nil : ¬ Reaches passes [] before item := by
  rintro ⟨⟨after, h⟩, _⟩
  cases before <;> cases h

/-- Nothing fails in an empty list. -/
theorem not_exists_reaches_nil {fails : α → Prop} : ¬ ∃ before item, Reaches passes [] before item ∧ fails item :=
  fun ⟨_, _, hreaches, _⟩ => not_reaches_nil hreaches

/-- The first item of a list is reached at once, and the others if it passes. -/
theorem reaches_cons_iff {first : α} :
    Reaches passes (first :: items) before item ↔
      before = [] ∧ first = item ∨
        passes first ∧ ∃ later, before = first :: later ∧ Reaches passes items later item := by
  constructor
  · rintro ⟨⟨after, hsplit⟩, hbefore⟩
    obtain ⟨rfl, hitem⟩ | ⟨later, rfl, rfl⟩ := List.cons_eq_append_iff.mp hsplit
    · exact .inl ⟨rfl, (List.cons.inj hitem).1.symm⟩
    · obtain ⟨hfirst, hlater⟩ := List.forall_mem_cons.mp hbefore
      exact .inr ⟨hfirst, later, rfl, ⟨after, rfl⟩, hlater⟩
  · rintro (⟨rfl, rfl⟩ | ⟨hfirst, later, rfl, ⟨after, rfl⟩, hlater⟩)
    · exact ⟨⟨items, rfl⟩, List.forall_mem_nil _⟩
    · exact ⟨⟨after, rfl⟩, List.forall_mem_cons.mpr ⟨hfirst, hlater⟩⟩

/-- What fails first in a list is its first item, or what fails first among the others. -/
theorem exists_reaches_cons_iff {fails : α → Prop} {first : α} :
    (∃ before item, Reaches passes (first :: items) before item ∧ fails item) ↔
      fails first ∨ passes first ∧ ∃ before item, Reaches passes items before item ∧ fails item := by
  constructor
  · rintro ⟨before, item, hreaches, hfails⟩
    obtain ⟨rfl, rfl⟩ | ⟨hfirst, later, rfl, hlater⟩ := reaches_cons_iff.mp hreaches
    · exact .inl hfails
    · exact .inr ⟨hfirst, later, item, hlater, hfails⟩
  · rintro (hfails | ⟨hfirst, later, item, hlater, hfails⟩)
    · exact ⟨[], first, reaches_cons_iff.mpr (.inl ⟨rfl, rfl⟩), hfails⟩
    · exact ⟨first :: later, item, reaches_cons_iff.mpr (.inr ⟨hfirst, later, rfl, hlater⟩), hfails⟩

end Reaches

end TemplateAudit
