import TemplateAudit.Markup.Tag
import TemplateAudit.Proofs.Markup.Reading

namespace TemplateAudit

/-- The first offset from `start` on at which `needle` stands. -/
def Text.indexFrom? (text needle : Text) (start : Nat) : Option Nat :=
  (Text.splitAtFirst? needle (text.drop start)).map fun (before, _) => start + before.length

/-- Where in a tag the machine is. -/
inductive TagState where
  | beforeAttributeName
  | attributeName
  | afterAttributeName
  | beforeAttributeValue
  | quotedValue
  | bareValue
deriving DecidableEq, Repr

/-- The state, the offset of the character to look at, and the registers. -/
structure TagMachine where
  tagName : Text
  tagStart : Nat
  state : TagState
  position : Nat
  nameStart : Nat
  nameEnd : Nat
  valueStart : Nat
  quote : Char
  slash : Bool
  attributes : List Attribute

namespace TagMachine

/-- The attribute whose name the registers hold, with the span of its value if it has one. -/
def noted (machine : TagMachine) (text : Text) (value : Option (Nat × Nat)) : Attribute :=
  let name := text.slice machine.nameStart machine.nameEnd
  let binding := Binding.classify name
  { rawName := name
    logicalName := binding.logicalName
    kind := binding.kind
    nameStart := machine.nameStart
    nameEnd := machine.nameEnd
    logicalStart := machine.nameStart + binding.offset
    logicalEnd := machine.nameStart + binding.offset + binding.logicalName.length
    value := value.map fun (start, stop) => ⟨text.slice start stop, start, stop⟩ }

/-- Note the attribute and go on between attributes, at the given offset. -/
def note (machine : TagMachine) (text : Text) (value : Option (Nat × Nat)) (position : Nat) :
    TagMachine :=
  { machine with
    state := .beforeAttributeName
    position := position
    attributes := machine.attributes ++ [machine.noted text value] }

/-- The tag that ends with the character the machine looks at. -/
def finished (machine : TagMachine) : Tag :=
  { name := machine.tagName
    attributes := machine.attributes
    start := machine.tagStart
    stop := machine.position + 1
    selfClosing := machine.slash }

/-- What one look at a character leads to. -/
inductive Progress where
  | closed
  | stuck
  | moved (machine : TagMachine)

/-- Look at one character. Some transitions leave it to be looked at again in the next state. -/
def step (text : Text) (machine : TagMachine) : Progress :=
  match text[machine.position]? with
  | none => .stuck
  | some c =>
    let ahead := machine.position + 1
    match machine.state with
    | .beforeAttributeName =>
      if c = '>' then .closed
      else if c = '/' then .moved { machine with slash := true, position := ahead }
      else if isBlank c then .moved { machine with position := ahead }
      else
        .moved { machine with
          state := .attributeName
          slash := false
          nameStart := machine.position
          position := ahead }
    | .attributeName =>
      if isBlank c || c == '/' || c == '>' || c == '=' then
        .moved { machine with state := .afterAttributeName, nameEnd := machine.position }
      else .moved { machine with position := ahead }
    | .afterAttributeName =>
      if c = '=' then .moved { machine with state := .beforeAttributeValue, position := ahead }
      else if isBlank c then .moved { machine with position := ahead }
      else .moved (machine.note text none machine.position)
    | .beforeAttributeValue =>
      if c = '\'' ∨ c = '"' then
        .moved { machine with state := .quotedValue, quote := c, valueStart := ahead, position := ahead }
      else if c = '>' then
        .moved (machine.note text (some (machine.position, machine.position)) machine.position)
      else if isBlank c then .moved { machine with position := ahead }
      else
        .moved { machine with
          state := .bareValue
          valueStart := machine.position
          position := ahead }
    | .quotedValue =>
      match text.indexFrom? [machine.quote] machine.position with
      | none => .stuck
      | some close => .moved (machine.note text (some (machine.valueStart, close)) (close + 1))
    | .bareValue =>
      if isBlank c || c == '>' then
        .moved (machine.note text (some (machine.valueStart, machine.position)) machine.position)
      else .moved { machine with position := ahead }

/-- How often a character can still be looked at again before the machine moves on. -/
def repeats : TagState → Nat
  | .attributeName => 2
  | .afterAttributeName => 1
  | .beforeAttributeValue => 1
  | .bareValue => 1
  | .beforeAttributeName => 0
  | .quotedValue => 0

/-- What every step makes smaller. -/
def remaining (text : Text) (machine : TagMachine) : Nat :=
  3 * (text.length - machine.position) + repeats machine.state

end TagMachine

/-- A search finds nothing before its start, and all of what it finds lies in the text. -/
theorem Text.indexFrom?_bounds {text needle : Text} {start index : Nat}
    (h : text.indexFrom? needle start = some index) :
    start ≤ index ∧ index + needle.length ≤ max start text.length := by
  simp only [Text.indexFrom?, Option.map_eq_some_iff, Prod.exists] at h
  obtain ⟨before, after, hsplit, rfl⟩ := h
  have hlength := congrArg List.length (Text.append_of_splitAtFirst? hsplit)
  simp only [List.length_drop, List.length_append] at hlength
  omega

/-- A step leaves the character behind, or it comes to a state in which the character can be looked at
    less often. -/
theorem TagMachine.step_advances {text : Text} {machine next : TagMachine}
    (h : step text machine = .moved next) :
    machine.position < text.length ∧ (machine.position < next.position ∨
      next.position = machine.position ∧ repeats next.state < repeats machine.state) := by
  cases hc : text[machine.position]? with
  | none => simp [step, hc] at h
  | some c =>
    refine ⟨(List.getElem?_eq_some_iff.mp hc).1, ?_⟩
    simp only [step, hc] at h
    cases hstate : machine.state with
    | beforeAttributeName =>
      simp only [hstate] at h
      split_ifs at h <;> cases h <;> simp
    | attributeName =>
      simp only [hstate] at h
      split_ifs at h <;> cases h <;> simp [repeats]
    | afterAttributeName =>
      simp only [hstate] at h
      split_ifs at h <;> cases h <;> simp [repeats, note]
    | beforeAttributeValue =>
      simp only [hstate] at h
      split_ifs at h <;> cases h <;> simp [repeats, note]
    | quotedValue =>
      simp only [hstate] at h
      split at h
      · simp at h
      · next close hclose =>
        have hle := (Text.indexFrom?_bounds hclose).1
        cases h
        exact .inl (Nat.lt_succ_of_le hle)
    | bareValue =>
      simp only [hstate] at h
      split_ifs at h <;> cases h <;> simp [repeats, note]

/-- Each step leaves less to do. -/
theorem TagMachine.remaining_lt_of_step {text : Text} {machine next : TagMachine}
    (h : step text machine = .moved next) : next.remaining text < machine.remaining text := by
  have hrepeats : repeats next.state ≤ 2 := by cases next.state <;> decide
  obtain ⟨hinside, hahead | ⟨hsame, hless⟩⟩ := step_advances h
  · rw [remaining, remaining]
    omega
  · rw [remaining, remaining, hsame]
    omega

/-- Look at characters until the tag is closed or the machine is stuck. -/
def TagMachine.run (text : Text) (machine : TagMachine) : Option Tag :=
  match _h : step text machine with
  | .closed => some machine.finished
  | .stuck => none
  | .moved next => run text next
termination_by machine.remaining text
decreasing_by exact remaining_lt_of_step (by assumption)

/-- The start tag whose `<` stands at `start`, read from scratch. -/
def TagMachine.tagAt? (text : Text) (start : Nat) : Option Tag :=
  let name : Text := (text.drop (start + 1)).takeWhile fun c => !(isBlank c || c == '/' || c == '>')
  run text
    { tagName := name.lower
      tagStart := start
      state := .beforeAttributeName
      position := start + 1 + name.length
      nameStart := start
      nameEnd := start
      valueStart := 0
      quote := ' '
      slash := false
      attributes := [] }

namespace TagMachine

variable {text : Text} {machine next : TagMachine}

/-- A run goes on from the state after a step. -/
theorem run_of_moved (h : step text machine = .moved next) : run text machine = run text next := by
  rw [run]
  split
  · next hclosed => simp [h] at hclosed
  · next hstuck => simp [h] at hstuck
  · next other hmoved =>
    rw [h] at hmoved
    cases hmoved
    rfl

theorem run_of_closed (h : step text machine = .closed) :
    run text machine = some machine.finished := by
  rw [run]
  split
  · rfl
  · next hstuck => simp [h] at hstuck
  · next hmoved => simp [h] at hmoved

theorem run_of_stuck (h : step text machine = .stuck) : run text machine = none := by
  rw [run]
  split
  · next hclosed => simp [h] at hclosed
  · rfl
  · next hmoved => simp [h] at hmoved

theorem run_at_end (machine : TagMachine) (h : text.drop machine.position = []) : run text machine = none := by
  apply run_of_stuck
  rw [step, ← List.head?_drop, h]
  rfl

/-- A state that stays for all characters of a run is left at the end of the run. -/
theorem run_skip (text : Text) (machine : TagMachine) (keep : Char → Bool)
    (hstay : ∀ {i c}, text[i]? = some c → keep c = true →
      step text { machine with position := i } = .moved { machine with position := i + 1 }) (i : Nat) :
    run text { machine with position := i } =
      run text { machine with position := i + ((text.drop i).takeWhile keep).length } := by
  induction htext : text.drop i generalizing i with
  | nil => simp
  | cons c rest ih =>
    obtain ⟨hc, hrest⟩ := Text.drop_eq_cons htext
    by_cases hkeep : keep c = true
    · rw [run_of_moved (hstay hc hkeep), ih (i + 1) hrest, List.takeWhile_cons_of_pos hkeep,
        List.length_cons, Nat.add_assoc, Nat.add_comm 1]
    · rw [List.takeWhile_cons_of_neg hkeep, List.length_nil, Nat.add_zero]

/-- After such a run the machine either moves on to the next state or is at the end of the text, where
    it is stuck in any state. -/
theorem run_through (text : Text) (machine : TagMachine) (keep : Char → Bool)
    (hstay : ∀ {i c}, text[i]? = some c → keep c = true →
      step text { machine with position := i } = .moved { machine with position := i + 1 })
    {i stop : Nat} (hstop : stop = i + ((text.drop i).takeWhile keep).length)
    (hnext : next.position = stop)
    (hleave : ∀ {c}, text[stop]? = some c → keep c = false →
      step text { machine with position := stop } = .moved next) :
    run text { machine with position := i } = run text next := by
  rw [run_skip text machine keep hstay i, ← hstop]
  have hdrop := Text.drop_add_length_takeWhile keep text i
  rw [← hstop] at hdrop
  cases hrest : text.drop stop with
  | nil =>
    rw [run_at_end next (by rw [hnext, hrest])]
    exact run_at_end { machine with position := stop } hrest
  | cons c rest =>
    have hends := (Text.isLongestRun_takeWhile keep (text.drop i)).2 c (by rw [← hdrop, hrest]; rfl)
    exact run_of_moved (hleave (Text.drop_eq_cons hrest).1 hends)

end TagMachine

end TemplateAudit
