import TemplateAudit.Text.Blank

namespace TemplateAudit

/-- What ends a tag name. -/
def endsTagName (c : Char) : Bool := isBlank c || c == '/' || c == '>'

/-- What ends an attribute name after its first character. -/
def endsAttributeName (c : Char) : Bool := endsTagName c || c == '='

/-- What ends an attribute value without quotes. -/
def endsBareValue (c : Char) : Bool := isBlank c || c == '>'

/-- The two characters that open and close a quoted value. -/
def isQuote (c : Char) : Bool := c == '\'' || c == '"'

/-- An attribute value as written, quotes apart from its body. -/
inductive WrittenValue where
  | quoted (mark : Char) (body : Text)
  | bare (body : Text)
deriving DecidableEq, Repr

/-- What follows the name of an attribute that has a value: the blanks on both sides of `=` and the
    value. -/
structure Assignment where
  before : Text
  after : Text
  value : WrittenValue
deriving DecidableEq, Repr

/-- What may stand between a tag name and the closing `>`. -/
inductive TagItem where
  | blank (c : Char)
  | slash
  | attribute (name : Text) (assignment : Option Assignment)
deriving DecidableEq, Repr

/-- The name and the items of a start tag. A start tag is `<`, a name, a run of items and `>`. An item is a blank, a
    slash or an attribute, and each item knows the text it was read from, so the tag read from a text is the beginning
    of that text. Reading is lexical only: no name is checked and nothing but a missing `>` or a quote without partner
    makes a tag unreadable. -/
structure WrittenTag where
  name : Text
  items : List TagItem
deriving DecidableEq, Repr

/-- The text of a value. -/
def WrittenValue.text : WrittenValue → Text
  | .quoted mark body => mark :: (body ++ [mark])
  | .bare body => body

/-- The text from the end of an attribute name to the end of its value. -/
def Assignment.text (assignment : Assignment) : Text :=
  assignment.before ++ '=' :: (assignment.after ++ assignment.value.text)

/-- The text of an item. -/
def TagItem.text : TagItem → Text
  | .blank c => [c]
  | .slash => ['/']
  | .attribute name none => name
  | .attribute name (some assignment) => name ++ assignment.text

/-- The text of a start tag from `<` to `>`. -/
def WrittenTag.text (tag : WrittenTag) : Text :=
  '<' :: (tag.name ++ tag.items.flatMap TagItem.text ++ ['>'])

/-- Read a value at the first character that is not blank after `=`. A bare value may be empty when
    `>` comes at once. -/
def WrittenValue.read? : Text → Option (WrittenValue × Text)
  | [] => none
  | c :: rest =>
    if isQuote c then
      match rest.dropWhile (· != c) with
      | [] => none
      | _ :: after => some (.quoted c (rest.takeWhile (· != c)), after)
    else
      some (.bare ((c :: rest).takeWhile (!endsBareValue ·)),
        (c :: rest).dropWhile (!endsBareValue ·))

/-- Read what follows an attribute name: an assignment if the next character that is not blank is
    `=`, and nothing otherwise. Fails on a value that cannot be read. -/
def Assignment.read? (text : Text) : Option (Option Assignment × Text) :=
  match text.dropWhile isBlank with
  | '=' :: rest =>
    match WrittenValue.read? (rest.dropWhile isBlank) with
    | some (value, remaining) =>
      some (some ⟨text.takeWhile isBlank, rest.takeWhile isBlank, value⟩, remaining)
    | none => none
  | _ => some (none, text)

/-- Read one item at a character other than `>`. An attribute name takes its first character
    unseen, so it may start with `=`. -/
def TagItem.read? : Text → Option (TagItem × Text)
  | [] => none
  | c :: rest =>
    if isBlank c then some (.blank c, rest)
    else if c = '/' then some (.slash, rest)
    else
      match Assignment.read? (rest.dropWhile (!endsAttributeName ·)) with
      | some (assignment, remaining) =>
        some (.attribute (c :: rest.takeWhile (!endsAttributeName ·)) assignment, remaining)
      | none => none

/-- Reading a value adds nothing to the text, though an empty one takes nothing from it. -/
theorem WrittenValue.length_of_read? {text remaining : Text} {value : WrittenValue}
    (h : WrittenValue.read? text = some (value, remaining)) :
    remaining.length ≤ text.length := by
  cases text with
  | nil => simp [WrittenValue.read?] at h
  | cons c rest =>
    simp only [WrittenValue.read?] at h
    split at h
    · split at h
      · simp at h
      · next after hdrop =>
        have hle := Text.length_dropWhile_le (· != c) rest
        rw [hdrop] at hle
        simp only [Option.some.injEq, Prod.mk.injEq] at h
        obtain ⟨_, rfl⟩ := h
        simp only [List.length_cons] at hle ⊢
        omega
    · simp only [Option.some.injEq, Prod.mk.injEq] at h
      obtain ⟨_, rfl⟩ := h
      exact Text.length_dropWhile_le _ _

/-- Reading what follows a name adds nothing to the text. -/
theorem Assignment.length_of_read? {text remaining : Text} {assignment : Option Assignment}
    (h : Assignment.read? text = some (assignment, remaining)) :
    remaining.length ≤ text.length := by
  unfold Assignment.read? at h
  split at h
  · next rest hdrop =>
    split at h
    · next value after hvalue =>
      have hblank := Text.length_dropWhile_le isBlank text
      have hinner := Text.length_dropWhile_le isBlank rest
      have hread := WrittenValue.length_of_read? hvalue
      rw [hdrop] at hblank
      simp only [Option.some.injEq, Prod.mk.injEq] at h
      obtain ⟨_, rfl⟩ := h
      simp only [List.length_cons] at hblank
      omega
    · simp at h
  · simp only [Option.some.injEq, Prod.mk.injEq] at h
    obtain ⟨_, rfl⟩ := h
    exact Nat.le_refl _

/-- An item takes at least one character, so reading items one after another ends. -/
theorem TagItem.length_of_read? {text remaining : Text} {item : TagItem}
    (h : TagItem.read? text = some (item, remaining)) :
    remaining.length < text.length := by
  cases text with
  | nil => simp [TagItem.read?] at h
  | cons c rest =>
    simp only [TagItem.read?] at h
    split at h
    · simp only [Option.some.injEq, Prod.mk.injEq] at h
      obtain ⟨_, rfl⟩ := h
      simp
    · split at h
      · simp only [Option.some.injEq, Prod.mk.injEq] at h
        obtain ⟨_, rfl⟩ := h
        simp
      · split at h
        · next assignment after hassign =>
          have hread := Assignment.length_of_read? hassign
          have hname := Text.length_dropWhile_le (!endsAttributeName ·) rest
          simp only [Option.some.injEq, Prod.mk.injEq] at h
          obtain ⟨_, rfl⟩ := h
          simp only [List.length_cons]
          omega
        · simp at h

/-- Read items up to and including the closing `>`. -/
def TagItem.readAll? (text : Text) : Option (List TagItem × Text) :=
  match text with
  | [] => none
  | c :: rest =>
    if c = '>' then some ([], rest)
    else
      match _h : TagItem.read? (c :: rest) with
      | none => none
      | some (item, remaining) =>
        (TagItem.readAll? remaining).map fun (items, after) => (item :: items, after)
termination_by text.length
decreasing_by exact TagItem.length_of_read? (by assumption)

/-- Read the start tag whose `<` stands right before `text`. -/
def WrittenTag.read? (text : Text) : Option (WrittenTag × Text) :=
  (TagItem.readAll? (text.dropWhile (!endsTagName ·))).map fun (items, after) =>
    (⟨text.takeWhile (!endsTagName ·), items⟩, after)

end TemplateAudit
