import TemplateAudit.Proofs.Markup.Machine

namespace TemplateAudit

/-- The span of a value that starts at `offset`, quotes excluded. -/
def WrittenValue.span (offset : Nat) : WrittenValue → Nat × Nat
  | .quoted _ body => (offset + 1, offset + 1 + body.length)
  | .bare body => (offset, offset + body.length)

/-- The span of the value of an assignment that starts at `offset`. -/
def Assignment.span (offset : Nat) (assignment : Assignment) : Nat × Nat :=
  assignment.value.span (offset + assignment.before.length + 1 + assignment.after.length)

/-- Splitting at one character is searching for it. -/
theorem Text.splitAtFirst?_singleton (mark : Char) (text : Text) :
    Text.splitAtFirst? [mark] text =
      match text.dropWhile (· != mark) with
      | [] => none
      | _ :: after => some (text.takeWhile (· != mark), after) := by
  induction text with
  | nil => rfl
  | cons c text ih =>
    rw [Text.splitAtFirst?]
    by_cases hmark : c = mark
    · subst hmark
      simp
    · have hne : (c != mark) = true := by simpa using hmark
      have hprefix : ¬ [mark].isPrefixOf (c :: text) = true := by
        simpa [List.isPrefixOf] using Ne.symm hmark
      rw [if_neg hprefix, ih, List.dropWhile_cons, if_pos hne, List.takeWhile_cons, if_pos hne]
      cases text.dropWhile (· != mark) <;> rfl

namespace TagMachine

variable {text : Text} {machine : TagMachine}

/-- The machine has noted an attribute and is between attributes again; registers that are set before
    they are next used may hold anything. -/
structure Resumes (machine next : TagMachine) (position : Nat) (attr : Attribute) : Prop where
  state : next.state = .beforeAttributeName
  position : next.position = position
  attributes : next.attributes = machine.attributes ++ [attr]
  slash : next.slash = machine.slash
  tagName : next.tagName = machine.tagName
  tagStart : next.tagStart = machine.tagStart

/-- The machine runs through an attribute name to its end. -/
theorem run_attributeName (hstate : machine.state = .attributeName) {stop : Nat}
    (hstop : stop =
      machine.position + ((text.drop machine.position).takeWhile staysInAttributeName).length) :
    run text machine =
      run text { machine with state := .afterAttributeName, nameEnd := stop, position := stop } := by
  apply run_through text machine staysInAttributeName _ hstop rfl
  · intro c hc hleaves
    rw [← not_endsAttributeName, Bool.not_eq_false', endsAttributeName, endsTagName] at hleaves
    simp only [step, hc, hstate, hleaves, if_true]
  · intro i c hc hkeep
    rw [← not_endsAttributeName, Bool.not_eq_true', endsAttributeName, endsTagName] at hkeep
    simp only [step, hc, hstate, hkeep, Bool.false_eq_true, if_false]

/-- The machine runs through a bare value and notes the attribute. -/
theorem run_bareValue (hstate : machine.state = .bareValue) {stop : Nat}
    (hstop : stop =
      machine.position + ((text.drop machine.position).takeWhile staysInBareValue).length) :
    run text machine = run text (machine.note text (some (machine.valueStart, stop)) stop) := by
  apply run_through text machine staysInBareValue _ hstop rfl
  · intro c hc hleaves
    rw [← not_endsBareValue, Bool.not_eq_false', endsBareValue] at hleaves
    simp only [step, hc, hstate, hleaves, if_true]
    rfl
  · intro i c hc hkeep
    rw [← not_endsBareValue, Bool.not_eq_true', endsBareValue] at hkeep
    simp only [step, hc, hstate, hkeep, Bool.false_eq_true, if_false]

/-- No tag is read if a quote has no partner. -/
theorem run_quotedValue_of_unclosed (hstate : machine.state = .quotedValue)
    (hsearch : (text.drop machine.position).dropWhile (· != machine.quote) = []) :
    run text machine = none := by
  have hindex : text.indexFrom? [machine.quote] machine.position = none := by
    rw [Text.indexFrom?, Text.splitAtFirst?_singleton, hsearch]
    rfl
  apply run_of_stuck
  rw [step]
  split
  · rfl
  · simp only [hstate, hindex]

/-- The machine jumps to the partner of a quote and notes the attribute. -/
theorem run_quotedValue_of_closed (hstate : machine.state = .quotedValue) {mark : Char} {after : Text}
    (hsearch : (text.drop machine.position).dropWhile (· != machine.quote) = mark :: after)
    {close : Nat} (hclose : close =
      machine.position + ((text.drop machine.position).takeWhile (· != machine.quote)).length) :
    run text machine = run text (machine.note text (some (machine.valueStart, close)) (close + 1)) := by
  have hindex : text.indexFrom? [machine.quote] machine.position = some close := by
    rw [Text.indexFrom?, Text.splitAtFirst?_singleton, hsearch, hclose]
    rfl
  apply run_of_moved
  rw [step]
  split
  · next hend =>
    rw [← List.head?_drop, List.head?_eq_none_iff] at hend
    simp [hend] at hsearch
  · simp only [hstate, hindex]

theorem resumes_note (machine : TagMachine) (text : Text) (value : Option (Nat × Nat))
    (position : Nat) :
    machine.Resumes (machine.note text value position) position (machine.noted text value) :=
  ⟨rfl, rfl, rfl, rfl, rfl, rfl⟩

/-- The machine fails if nothing is read, and otherwise notes the value that is read. -/
def NotesValue (machine : TagMachine) (text : Text) : Option (WrittenValue × Text) → Prop
  | none => run text machine = none
  | some (value, _) => ∃ next, run text machine = run text next ∧
      machine.Resumes next (machine.position + value.text.length)
        (machine.noted text (some (value.span machine.position)))

/-- A value in quotes is noted up to the next quote, if there is one. -/
theorem notesValue_quoted {c : Char} {rest : Text} (hstate : machine.state = .beforeAttributeValue)
    (htext : text.drop machine.position = c :: rest) (hquote : isQuote c = true) :
    machine.NotesValue text (WrittenValue.read? (c :: rest)) := by
  obtain ⟨hc, hrest⟩ := Text.drop_eq_cons htext
  let opened : TagMachine := { machine with
    state := .quotedValue
    quote := c
    valueStart := machine.position + 1
    position := machine.position + 1 }
  have hmoved : run text machine = run text opened := by
    apply run_of_moved
    simp only [step, hc, hstate, if_pos (isQuote_iff.mp hquote), opened]
  rw [WrittenValue.read?, if_pos hquote]
  cases hsearch : rest.dropWhile (· != c) with
  | nil =>
    rw [← hrest] at hsearch
    exact hmoved.trans (run_quotedValue_of_unclosed rfl hsearch)
  | cons mark after =>
    rw [← hrest] at hsearch
    let close := machine.position + 1 + (rest.takeWhile (· != c)).length
    have hclosed : run text opened =
        run text (opened.note text (some (machine.position + 1, close)) (close + 1)) :=
      run_quotedValue_of_closed rfl hsearch (by simp only [opened, close, hrest])
    refine ⟨_, hmoved.trans hclosed, rfl, ?_, rfl, rfl, rfl, rfl⟩
    simp only [note, close, WrittenValue.text, List.length_cons, List.length_append, List.length_nil]
    omega

/-- A value without quotes is noted up to the next blank or the end of the tag, where it may be empty. -/
theorem notesValue_bare {c : Char} {rest : Text} (hstate : machine.state = .beforeAttributeValue)
    (htext : text.drop machine.position = c :: rest) (hquote : ¬ isQuote c = true) (hblank : isBlank c = false) :
    machine.NotesValue text (WrittenValue.read? (c :: rest)) := by
  obtain ⟨hc, hrest⟩ := Text.drop_eq_cons htext
  have hnotQuote : ¬ (c = '\'' ∨ c = '"') := fun h => hquote (isQuote_iff.mpr h)
  rw [WrittenValue.read?, if_neg hquote, not_endsBareValue]
  by_cases hclose : c = '>'
  · subst hclose
    refine ⟨machine.note text (some (machine.position, machine.position)) machine.position, ?_, ?_⟩
    · apply run_of_moved
      simp only [step, hc, hstate, if_neg hnotQuote, if_true]
    · have hempty : ('>' :: rest).takeWhile staysInBareValue = [] := rfl
      rw [hempty]
      exact resumes_note machine text _ _
  · have hstays : staysInBareValue c = true := by simp [staysInBareValue, hblank, hclose]
    let started : TagMachine := { machine with
      state := .bareValue
      valueStart := machine.position
      position := machine.position + 1 }
    have hmoved : run text machine = run text started := by
      apply run_of_moved
      simp only [step, hc, hstate, if_neg hnotQuote, if_neg hclose, hblank, Bool.false_eq_true,
        if_false, started]
    let stop := machine.position + 1 + (rest.takeWhile staysInBareValue).length
    have hended : run text started =
        run text (started.note text (some (machine.position, stop)) stop) :=
      run_bareValue rfl (by simp only [started, stop, hrest])
    have hlength : stop = machine.position + ((c :: rest).takeWhile staysInBareValue).length := by
      rw [List.takeWhile_cons_of_pos hstays, List.length_cons]
      omega
    rw [hlength] at hended
    exact ⟨_, hmoved.trans hended, rfl, rfl, rfl, rfl, rfl, rfl⟩

/-- At the first character of a value the machine fails where no value can be read, and otherwise notes
    the value that is read. -/
theorem notesValue_read? (hstate : machine.state = .beforeAttributeValue)
    (hhead : ∀ c ∈ (text.drop machine.position).head?, isBlank c = false) :
    machine.NotesValue text (WrittenValue.read? (text.drop machine.position)) := by
  cases htext : text.drop machine.position with
  | nil => exact run_at_end machine htext
  | cons c rest =>
    by_cases hquote : isQuote c = true
    · exact notesValue_quoted hstate htext hquote
    · exact notesValue_bare hstate htext hquote (hhead c (by rw [htext]; rfl))

/-- The machine runs through blanks without a change of its state. -/
theorem run_skipBlanks (text : Text) (hstate : machine.state = .beforeAttributeName ∨
      machine.state = .afterAttributeName ∨ machine.state = .beforeAttributeValue) :
    run text machine = run text { machine with
      position := machine.position + ((text.drop machine.position).takeWhile isBlank).length } := by
  refine run_skip text machine isBlank ?_ machine.position
  intro i c hc hblank
  have hne (d : Char) (hd : isBlank d = false) : c ≠ d := by
    rintro rfl
    rw [hblank] at hd
    cases hd
  have hclose := hne '>' (by decide)
  have hslash := hne '/' (by decide)
  have hequals := hne '=' (by decide)
  have hsingle := hne '\'' (by decide)
  have hdouble := hne '"' (by decide)
  obtain hstate | hstate | hstate := hstate
  · simp only [step, hc, hstate, hclose, hslash, hblank, if_true, if_false]
  · simp only [step, hc, hstate, hequals, hblank, if_true, if_false]
  · simp only [step, hc, hstate, hsingle, hdouble, hclose, hblank, or_self, if_true, if_false]

/-- Without an equals sign behind it an attribute is noted without a value. -/
theorem run_afterAttributeName_of_unassigned (hstate : machine.state = .afterAttributeName)
    (hnext : ∀ inner, (text.drop machine.position).dropWhile isBlank ≠ '=' :: inner) :
    run text machine = run text (machine.note text none machine.position) := by
  rw [run_skipBlanks text (show (machine.note text none machine.position).state = _ ∨ _ from .inl rfl)]
  refine run_through text machine isBlank ?_ rfl rfl ?_
  · intro i c hc hblank
    have hequals : c ≠ '=' := by
      rintro rfl
      exact absurd hblank (by decide)
    simp only [step, hc, hstate, hequals, hblank, if_true, if_false]
  · intro c hc hblank
    have hequals : c ≠ '=' := by
      rintro rfl
      rw [← List.head?_drop, Text.drop_add_length_takeWhile] at hc
      obtain ⟨inner, hinner⟩ := List.head?_eq_some_iff.mp hc
      exact hnext inner hinner
    simp only [step, hc, hstate, hequals, hblank, Bool.false_eq_true, if_false]
    rfl

/-- An equals sign and the blanks around it lead to the value. -/
theorem run_afterAttributeName_of_assigned (hstate : machine.state = .afterAttributeName)
    {inner : Text} (hinner : (text.drop machine.position).dropWhile isBlank = '=' :: inner)
    {start : Nat} (hstart : start = machine.position +
      ((text.drop machine.position).takeWhile isBlank).length + 1 + (inner.takeWhile isBlank).length) :
    run text machine =
        run text { machine with state := .beforeAttributeValue, position := start } ∧
      text.drop start = inner.dropWhile isBlank := by
  have hdrop := Text.drop_add_length_takeWhile isBlank text machine.position
  rw [hinner] at hdrop
  obtain ⟨hequals, hafter⟩ := Text.drop_eq_cons hdrop
  let assigned : TagMachine := { machine with
    state := .beforeAttributeValue
    position := machine.position + ((text.drop machine.position).takeWhile isBlank).length + 1 }
  have hskipped := run_skipBlanks text (.inr (.inl hstate))
  have hmoved := run_of_moved (show step text { machine with
      position := machine.position + ((text.drop machine.position).takeWhile isBlank).length } =
      .moved assigned by
    simp only [step, hequals, hstate, if_true, assigned])
  have hspaced := run_skipBlanks text (show assigned.state = _ ∨ assigned.state = _ ∨ _ from
    .inr (.inr rfl))
  have hvalue := Text.drop_add_length_takeWhile isBlank text assigned.position
  simp only [assigned, hafter, ← hstart] at hspaced hvalue
  exact ⟨hskipped.trans (hmoved.trans hspaced), hvalue⟩

/-- After an attribute name the machine fails where no assignment can be read, and otherwise notes the
    attribute and is back between attributes where the assignment ends. -/
theorem run_afterAttributeName (text : Text) (hstate : machine.state = .afterAttributeName) :
    match Assignment.read? (text.drop machine.position) with
    | none => run text machine = none
    | some (assignment, _) => ∃ next, run text machine = run text next ∧
        machine.Resumes next (machine.position + (Assignment.spelling assignment).length)
          (machine.noted text (assignment.map (Assignment.span machine.position))) := by
  by_cases hnext : ∃ inner, (text.drop machine.position).dropWhile isBlank = '=' :: inner
  · obtain ⟨inner, hinner⟩ := hnext
    obtain ⟨hrun, hdrop⟩ := run_afterAttributeName_of_assigned hstate hinner rfl
    have hhead := (Text.isLongestRun_takeWhile isBlank inner).2
    rw [← hdrop] at hhead
    have hvalue := notesValue_read? (show TagMachine.state { machine with
      state := .beforeAttributeValue
      position := machine.position + ((text.drop machine.position).takeWhile isBlank).length + 1 +
        (inner.takeWhile isBlank).length } = .beforeAttributeValue from rfl) hhead
    simp only [hdrop] at hvalue
    simp only [Assignment.read?, hinner]
    cases hread : WrittenValue.read? (inner.dropWhile isBlank) with
    | none =>
      rw [hread] at hvalue
      exact hrun.trans hvalue
    | some found =>
      obtain ⟨value, remaining⟩ := found
      rw [hread] at hvalue
      obtain ⟨next, hnext, hresumes⟩ := hvalue
      refine ⟨next, hrun.trans hnext, hresumes.state, ?_, hresumes.attributes, hresumes.slash,
        hresumes.tagName, hresumes.tagStart⟩
      rw [hresumes.position]
      simp only [Assignment.spelling, Assignment.text, List.length_append, List.length_cons]
      omega
  · have hunassigned : ∀ inner, (text.drop machine.position).dropWhile isBlank ≠ '=' :: inner :=
      fun inner hinner => hnext ⟨inner, hinner⟩
    have hread : Assignment.read? (text.drop machine.position) =
        some (none, text.drop machine.position) := by
      simp only [Assignment.read?]
    rw [hread]
    refine ⟨_, run_afterAttributeName_of_unassigned hstate hunassigned, ?_⟩
    exact resumes_note machine text none machine.position

end TagMachine

end TemplateAudit
