import TemplateAudit.Message.Layout

namespace TemplateAudit

/-- A field: the written name with its parts, the conversion, and the layout. -/
structure TemplateField where
  name : Text
  conversion : Option Char
  layout : Text
deriving DecidableEq, Repr

/-- A piece of a template. -/
inductive TemplatePiece where
  | literal (c : Char)
  | field (field : TemplateField)
  | fault (error : TemplateError)
deriving DecidableEq, Repr

namespace Template

/-- Read a field name up to and including the mark that ends it. Between square brackets every
    character belongs to the name. -/
def readName (indexed : Bool) : Text → Except TemplateError (Text × Char × Text)
  | [] => .error .unclosedField
  | c :: rest =>
    if indexed then
      (readName (c != ']') rest).map fun (name, mark, after) => (c :: name, mark, after)
    else if c = '\x7b' then .error .openingInName
    else if c = '\x7d' || c = ':' || c = '!' then .ok ([], c, rest)
    else (readName (c == '[') rest).map fun (name, mark, after) => (c :: name, mark, after)

/-- Read a layout up to its closing brace; `depth` braces are open inside it. -/
def readLayout (depth : Nat) : Text → Except TemplateError (Text × Text)
  | [] => .error .unclosedLayout
  | c :: rest =>
    if c = '\x7d' then
      match depth with
      | 0 => .ok ([], rest)
      | depth + 1 => (readLayout depth rest).map fun (layout, after) => (c :: layout, after)
    else
      (readLayout (if c = '\x7b' then depth + 1 else depth) rest).map fun (layout, after) =>
        (c :: layout, after)

/-- Read the conversion and the layout that follow an exclamation mark. -/
def readConversion (name : Text) : Text → Except TemplateError (TemplateField × Text)
  | [] => .error .conversionMissing
  | [_] => .error .unclosedLayout
  | conversion :: mark :: rest =>
    if mark = '\x7d' then .ok (⟨name, some conversion, []⟩, rest)
    else if mark = ':' then
      (readLayout 0 rest).map fun (layout, after) => (⟨name, some conversion, layout⟩, after)
    else .error .colonExpected

/-- Read a field after its opening brace. -/
def readField (text : Text) : Except TemplateError (TemplateField × Text) :=
  match readName false text with
  | .error error => .error error
  | .ok (name, mark, rest) =>
    if mark = '!' then readConversion name rest
    else if mark = ':' then
      (readLayout 0 rest).map fun (layout, after) => (⟨name, none, layout⟩, after)
    else .ok (⟨name, none, []⟩, rest)

theorem length_of_readName {indexed : Bool} {text name after : Text} {mark : Char}
    (h : readName indexed text = .ok (name, mark, after)) : after.length < text.length := by
  induction text generalizing indexed name mark after with
  | nil => simp [readName] at h
  | cons c rest ih =>
    simp only [readName] at h
    split at h
    · cases hread : readName (c != ']') rest with
      | error e => simp [hread, Except.map] at h
      | ok result =>
        obtain ⟨inner, mark', after'⟩ := result
        simp only [hread, Except.map, Except.ok.injEq, Prod.mk.injEq] at h
        have := ih hread
        grind
    · split at h
      · simp at h
      · split at h
        · grind
        · cases hread : readName (c == '[') rest with
          | error e => simp [hread, Except.map] at h
          | ok result =>
            obtain ⟨inner, mark', after'⟩ := result
            simp only [hread, Except.map, Except.ok.injEq, Prod.mk.injEq] at h
            have := ih hread
            grind

theorem length_of_readLayout {depth : Nat} {text layout after : Text}
    (h : readLayout depth text = .ok (layout, after)) : after.length < text.length := by
  induction text generalizing depth layout after with
  | nil => simp [readLayout] at h
  | cons c rest ih =>
    simp only [readLayout] at h
    split at h
    · cases depth with
      | zero => grind
      | succ depth =>
        cases hread : readLayout depth rest with
        | error e => simp [hread, Except.map] at h
        | ok result =>
          simp only [hread, Except.map, Except.ok.injEq, Prod.mk.injEq] at h
          have := ih hread
          grind
    · cases hread : readLayout (if c = '\x7b' then depth + 1 else depth) rest with
      | error e => simp [hread, Except.map] at h
      | ok result =>
        simp only [hread, Except.map, Except.ok.injEq, Prod.mk.injEq] at h
        have := ih hread
        grind

theorem length_of_readConversion {name text after : Text} {field : TemplateField}
    (h : readConversion name text = .ok (field, after)) : after.length < text.length := by
  match text with
  | [] => simp [readConversion] at h
  | [_] => simp [readConversion] at h
  | conversion :: mark :: rest =>
    simp only [readConversion] at h
    split at h
    · grind
    · split at h
      · cases hread : readLayout 0 rest with
        | error e => simp [hread, Except.map] at h
        | ok result =>
          simp only [hread, Except.map, Except.ok.injEq, Prod.mk.injEq] at h
          have := length_of_readLayout hread
          grind
      · simp at h

/-- A field takes at least its closing brace, so cutting a template into pieces ends. -/
theorem length_of_readField {text after : Text} {field : TemplateField}
    (h : readField text = .ok (field, after)) : after.length < text.length := by
  unfold readField at h
  split at h
  · simp at h
  · next name mark rest hname =>
    have hrest := length_of_readName hname
    split at h
    · have := length_of_readConversion h
      omega
    · split at h
      · cases hread : readLayout 0 rest with
        | error e => simp [hread, Except.map] at h
        | ok result =>
          simp only [hread, Except.map, Except.ok.injEq, Prod.mk.injEq] at h
          have := length_of_readLayout hread
          grind
      · grind

/-- The pieces of a template up to its end or its first fault. -/
def pieces (text : Text) : List TemplatePiece :=
  match text with
  | [] => []
  | c :: rest =>
    if c = '\x7b' then
      match rest with
      | [] => [.fault .loneOpening]
      | d :: more =>
        if d = '\x7b' then .literal d :: pieces more
        else
          match _h : readField (d :: more) with
          | .error error => [.fault error]
          | .ok (field, after) => .field field :: pieces after
    else if c = '\x7d' then
      match rest with
      | [] => [.fault .loneClosing]
      | d :: more => if d = '\x7d' then .literal d :: pieces more else [.fault .loneClosing]
    else .literal c :: pieces rest
termination_by text.length
decreasing_by
  · simp only [List.length_cons]
    omega
  · have := length_of_readField (by assumption)
    simp only [List.length_cons] at this ⊢
    omega
  · simp only [List.length_cons]
    omega
  · simp only [List.length_cons]
    omega

/-- Follow the rest of a field name from a part: points with a word after them, and indices in
    brackets. -/
def followParts (fuel : Nat) (part : Part) (names : Text) : Except TemplateError Part :=
  match fuel, names with
  | 0, _ => .ok part
  | _, [] => .ok part
  | fuel + 1, c :: rest =>
    if c = '.' then
      match rest.takeWhile fun c => c != '.' && c != '[' with
      | [] => .error .emptyPart
      | name =>
        match part.after? name with
        | some next => followParts fuel next (rest.drop name.length)
        | none => .error (part.absence name)
    else if c = '[' then
      let index := rest.takeWhile (· != ']')
      match rest.dropWhile (· != ']') with
      | [] => .error .unclosedIndex
      | _ :: after => do
        let n ← Layout.number? index
        if index.isEmpty then throw .emptyPart
        let next ← part.member (n.elim (.key index) .number)
        followParts fuel next after
    else .error .badPartStart

/-- The part that a field name stands for. -/
def lookUp (values : Text → Option Text) (name : Text) : Except TemplateError Part :=
  let first := name.takeWhile fun c => c != '.' && c != '['
  let names := name.drop first.length
  match Layout.number? first with
  | .error error => .error error
  | .ok (some index) => .error (.positional index)
  | .ok none =>
    if first.isEmpty then .error (.positional 0)
    else
      match values first with
      | none => .error (.unknownSlot first)
      | some value => followParts names.length (.text value) names

/-- The conversion that stands for none. -/
def noConversion : Char := Char.ofNat 0

/-- Apply a conversion to a part. -/
def convert (conversion : Option Char) (part : Part) : Except TemplateError Part :=
  match conversion with
  | none => .ok part
  | some c =>
    if c = noConversion then .ok part
    else if c = 'r' then .ok (.text (part.shownBy Text.quoted))
    else if c = 's' then .ok (.text part.shown)
    else if c = 'a' then .ok (.text (part.shownBy Text.quotedAscii))
    else .error (.unknownConversion c)

/-- Render a field; `expand` renders a layout that holds fields. -/
def renderField (expand : Text → Except TemplateError Text) (values : Text → Option Text)
    (field : TemplateField) : Except TemplateError Text := do
  let part ← lookUp values field.name
  let part ← convert field.conversion part
  let layout ← if field.layout.contains '\x7b' then expand field.layout else .ok field.layout
  part.layOut layout

/-- Render pieces in order, up to the first problem. -/
def renderPieces (expand : Text → Except TemplateError Text) (values : Text → Option Text) :
    List TemplatePiece → Except TemplateError Text
  | [] => .ok []
  | .literal c :: rest => (renderPieces expand values rest).map (c :: ·)
  | .fault error :: _ => .error error
  | .field field :: rest =>
    match renderField expand values field with
    | .error error => .error error
    | .ok shown => (renderPieces expand values rest).map (shown ++ ·)

/-- Render a template whose layouts may hold fields `depth - 1` levels deep. -/
def renderAt (depth : Nat) (values : Text → Option Text) (text : Text) :
    Except TemplateError Text :=
  match depth with
  | 0 => .error .tooDeep
  | depth + 1 => renderPieces (renderAt depth values) values (pieces text)

/-- Render a template with the given slot values. A template is text with fields in braces; doubled braces stand for
    themselves. A field names a slot, may pick a character of its value by index or another part of it by name, may
    ask for the value in quotes (`!r`, or `!a` for ASCII quotes), and may give a layout after a colon: fill,
    alignment, width and precision. A layout may hold fields of its own, one level deep. A template is first cut into
    pieces, the last of which may be a fault, and the pieces are rendered in order, so the first problem from the left
    is the one reported. -/
def render (values : Text → Option Text) (text : Text) : Except TemplateError Text :=
  renderAt 2 values text

end Template

end TemplateAudit
