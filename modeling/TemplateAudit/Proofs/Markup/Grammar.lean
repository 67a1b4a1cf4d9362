import TemplateAudit.Markup.StartTag
import TemplateAudit.Proofs.Text.Run

namespace TemplateAudit

/-- The characters of a tag name, and the first one of an attribute name. -/
def staysInTagName (c : Char) : Bool := !isBlank c && c != '/' && c != '>'

/-- The characters of an attribute name after the first. -/
def staysInAttributeName (c : Char) : Bool := !isBlank c && c != '/' && c != '>' && c != '='

/-- The characters of a value without quotes. -/
def staysInBareValue (c : Char) : Bool := !isBlank c && c != '>'

theorem not_endsTagName : (fun c => !endsTagName c) = staysInTagName := by
  funext c
  simp [endsTagName, staysInTagName, bne]

theorem not_endsAttributeName : (fun c => !endsAttributeName c) = staysInAttributeName := by
  funext c
  simp [endsAttributeName, endsTagName, staysInAttributeName, bne]

theorem not_endsBareValue : (fun c => !endsBareValue c) = staysInBareValue := by
  funext c
  simp [endsBareValue, staysInBareValue, bne]

theorem isQuote_iff {c : Char} : isQuote c = true ↔ c = '\'' ∨ c = '"' := by
  simp [isQuote]

theorem not_isBlank_of_isQuote {c : Char} (h : isQuote c = true) : isBlank c = false := by
  obtain rfl | rfl := isQuote_iff.mp h <;> decide

/-- A quoted value must not hold its own quote. A value without quotes reaches to the first blank or
    `>`, does not start with a quote, and is empty only right before `>`. -/
def WrittenValue.Fits : WrittenValue → Text → Prop
  | .quoted mark body, _ => (mark = '\'' ∨ mark = '"') ∧ mark ∉ body
  | .bare [], rest => rest.head? = some '>'
  | .bare (first :: body), rest =>
    first ≠ '\'' ∧ first ≠ '"' ∧ Text.IsLongestRun staysInBareValue (first :: body) rest

/-- The text of an assignment, which is empty when there is none. -/
def Assignment.spelling : Option Assignment → Text
  | none => []
  | some assignment => assignment.text

/-- An attribute has a value exactly when `=` is the next character that is not blank. -/
def Assignment.Fits : Option Assignment → Text → Prop
  | none, rest => rest.find? (!isBlank ·) ≠ some '='
  | some assignment, rest =>
    (∀ c ∈ assignment.before, isBlank c = true) ∧ (∀ c ∈ assignment.after, isBlank c = true) ∧
      assignment.value.Fits rest

/-- Which items may stand before a text. The name of an attribute is as long as can be. -/
def TagItem.Fits : TagItem → Text → Prop
  | .blank c, _ => isBlank c = true
  | .slash, _ => True
  | .attribute [] _, _ => False
  | .attribute (first :: name) assignment, rest =>
    staysInTagName first = true ∧
      Text.IsLongestRun staysInAttributeName name (Assignment.spelling assignment ++ rest) ∧
      Assignment.Fits assignment rest

instance (value : WrittenValue) (rest : Text) : Decidable (value.Fits rest) :=
  match value with
  | .quoted _ _ => inferInstanceAs (Decidable (_ ∧ _))
  | .bare [] => inferInstanceAs (Decidable (_ = _))
  | .bare (_ :: _) => inferInstanceAs (Decidable (_ ∧ _ ∧ _))

instance (assignment : Option Assignment) (rest : Text) : Decidable (Assignment.Fits assignment rest) :=
  match assignment with
  | none => inferInstanceAs (Decidable (_ ≠ _))
  | some assignment =>
    have hbefore := List.decidableBAll (isBlank · = true) assignment.before
    have hafter := List.decidableBAll (isBlank · = true) assignment.after
    @instDecidableAnd _ _ hbefore (@instDecidableAnd _ _ hafter inferInstance)

instance (item : TagItem) (rest : Text) : Decidable (item.Fits rest) :=
  match item with
  | .blank _ => inferInstanceAs (Decidable (_ = _))
  | .slash => inferInstanceAs (Decidable True)
  | .attribute [] _ => inferInstanceAs (Decidable False)
  | .attribute (_ :: _) _ => inferInstanceAs (Decidable (_ ∧ _ ∧ _))

/-- The items, one after another and then the closing `>`, make up the text. -/
inductive TagItem.Spell : List TagItem → Text → Prop where
  | close : Spell [] ['>']
  | item {item : TagItem} {items : List TagItem} {rest : Text}
      (hitem : item.Fits rest) (hitems : Spell items rest) : Spell (item :: items) (item.text ++ rest)

/-- The text is a start tag with this derivation. -/
def WrittenTag.Spells (tag : WrittenTag) (text : Text) : Prop :=
  ∃ body, text = '<' :: (tag.name ++ body) ∧ Text.IsLongestRun staysInTagName tag.name body ∧
    TagItem.Spell tag.items body

theorem TagItem.spell_nil_iff {text : Text} : TagItem.Spell [] text ↔ text = ['>'] := by
  constructor
  · rintro ⟨⟩
    rfl
  · rintro rfl
    exact .close

/-- A text spells items if it starts with the first one, which ends where it must, and spells the others behind
    that. -/
theorem TagItem.spell_cons_iff {item : TagItem} {items : List TagItem} {text : Text} :
    TagItem.Spell (item :: items) text ↔
      item.text <+: text ∧ item.Fits (text.drop item.text.length) ∧
        TagItem.Spell items (text.drop item.text.length) := by
  constructor
  · rintro (_ | ⟨hitem, hitems⟩)
    rw [List.drop_left]
    exact ⟨List.prefix_append _ _, hitem, hitems⟩
  · rintro ⟨⟨rest, rfl⟩, hitem, hitems⟩
    rw [List.drop_left] at hitem hitems
    exact .item hitem hitems

instance TagItem.decidableSpell : (items : List TagItem) → (text : Text) → Decidable (TagItem.Spell items text)
  | [], _ => decidable_of_iff _ TagItem.spell_nil_iff.symm
  | item :: items, text =>
    have := TagItem.decidableSpell items (text.drop item.text.length)
    decidable_of_iff _ TagItem.spell_cons_iff.symm

/-- A text spells a tag if a bracket and the longest possible name are followed by the spelling of its items. -/
theorem WrittenTag.spells_iff {tag : WrittenTag} {text : Text} :
    tag.Spells text ↔ '<' :: tag.name <+: text ∧
      Text.IsLongestRun staysInTagName tag.name (text.drop (tag.name.length + 1)) ∧
      TagItem.Spell tag.items (text.drop (tag.name.length + 1)) := by
  constructor
  · rintro ⟨body, rfl, hname, hbody⟩
    rw [List.drop_succ_cons, List.drop_left]
    exact ⟨List.prefix_append _ _, hname, hbody⟩
  · rintro ⟨⟨body, rfl⟩, hname, hbody⟩
    rw [List.cons_append, List.drop_succ_cons, List.drop_left] at hname hbody
    exact ⟨body, rfl, hname, hbody⟩

instance (tag : WrittenTag) (text : Text) : Decidable (tag.Spells text) :=
  decidable_of_iff _ WrittenTag.spells_iff.symm

theorem TagItem.text_attribute (name : Text) (assignment : Option Assignment) :
    (TagItem.attribute name assignment).text = name ++ Assignment.spelling assignment := by
  cases assignment with
  | none => simp [TagItem.text, Assignment.spelling]
  | some assignment => rfl

/-- Where an assignment is written, its value stands after the blanks and the `=`. -/
theorem Assignment.drop_value {text rest : Text} {assignment : Assignment} {offset : Nat}
    (h : text.drop offset = assignment.text ++ rest) :
    text.drop (offset + assignment.before.length + 1 + assignment.after.length) =
      assignment.value.text ++ rest := by
  rw [Assignment.text, List.append_assoc, List.cons_append, List.append_assoc] at h
  have hequals := (Text.drop_eq_cons (Text.drop_append h)).2
  exact Text.drop_append hequals

theorem TagItem.Spell.eq_text {items : List TagItem} {text : Text} (h : Spell items text) :
    text = items.flatMap TagItem.text ++ ['>'] := by
  induction h with
  | close => rfl
  | item _ _ ih => rw [List.flatMap_cons, List.append_assoc, ← ih]

theorem TagItem.Spell.close_mem {items : List TagItem} {text : Text} (h : Spell items text) :
    '>' ∈ text := by
  rw [h.eq_text]
  simp

theorem WrittenTag.Spells.eq_text {tag : WrittenTag} {text : Text} (h : tag.Spells text) :
    text = tag.text := by
  obtain ⟨body, rfl, _, hbody⟩ := h
  rw [WrittenTag.text, hbody.eq_text, List.append_assoc]

end TemplateAudit
