import TemplateAudit.Toml.Scalar

namespace TemplateAudit

namespace Toml

/-- The table at the end of a path, changed by `change`. Missing tables on the way are made; a list
    of tables stands for its last one if `throughLists`. None if something else stands in the way. -/
def atPath? (throughLists : Bool) (change : SettingTable → Option SettingTable) :
    Key → SettingTable → Option SettingTable
  | [], table => change table
  | name :: path, table =>
    match table with
    | [] => (atPath? throughLists change path []).map fun nested => [(name, .table nested)]
    | (key, value) :: rest =>
      if key = name then
        match value with
        | .table nested =>
          (atPath? throughLists change path nested).map fun nested => (key, .table nested) :: rest
        | .list items =>
          match throughLists, items.getLast? with
          | true, some (.table nested) =>
            (atPath? throughLists change path nested).map fun nested =>
              (key, .list (items.dropLast ++ [.table nested])) :: rest
          | _, _ => none
        | _ => none
      else (atPath? throughLists change (name :: path) rest).map ((key, value) :: ·)
termination_by path table => (path.length, table.length)

/-- Add an entry to a table that has none of that name. -/
def addEntry (name : Text) (value : Setting) (table : SettingTable) : Option SettingTable :=
  if table.any (·.1 == name) then none else some (table ++ [(name, value)])

/-- Add an empty table to the list of tables of a name. -/
def addToList (name : Text) : SettingTable → Option SettingTable
  | [] => some [(name, .list [.table []])]
  | (key, value) :: rest =>
    if key = name then
      match value with
      | .list items => some ((key, .list (items ++ [.table []])) :: rest)
      | _ => none
    else (addToList name rest).map ((key, value) :: ·)

/-- A document as far as it has been read. -/
structure Document where
  table : SettingTable
  /-- The table to which pairs are added. -/
  header : Key
  /-- Keys of values to which nothing may be added. -/
  frozen : List Key
  /-- Keys that no header may open. -/
  declared : List Key
  /-- Keys that no header may open once the current table has ended. -/
  pending : List Key

/-- The document before anything has been read. -/
def Document.empty : Document := ⟨[], [], [], [], []⟩

/-- Whether a key lies at or below a frozen one. -/
def isFrozen (frozen : List Key) (key : Key) : Bool := frozen.any (·.isPrefixOf key)

/-- Skip a comment up to the end of its line. -/
def skipComment (text : Text) : Except Error Text :=
  match text with
  | '#' :: rest =>
    let body := rest.takeWhile (· != '\n')
    (checkLegal isIllegal body rest).map fun _ => rest.drop body.length
  | text => .ok text

/-- Skip comments, white space and line ends. -/
def skipGaps (text : Text) : Except Error Text :=
  match _h : text.dropWhile isSpaceOrNewline with
  | '#' :: rest =>
    let body := rest.takeWhile (· != '\n')
    match checkLegal isIllegal body rest with
    | .error error => .error error
    | .ok () => skipGaps (rest.drop body.length)
  | rest => .ok rest
termination_by text.length
decreasing_by
  have := Text.length_lt_of_dropWhile_eq_cons _h
  simp only [List.length_drop]
  omega

/-- The characters of a key without quotes. -/
def isBareKeyChar (c : Char) : Bool := c.isAlphanum || c == '-' || c == '_'

/-- Read one part of a dotted key. -/
def readKeyPart (text : Text) : Except Error (Text × Text) :=
  match text with
  | [] => failAt .badKeyStart []
  | c :: rest =>
    if isBareKeyChar c then .ok (text.takeWhile isBareKeyChar, text.dropWhile isBareKeyChar)
    else if c = '\'' then readUntil "'" isIllegal rest
    else if c = '"' then readBasic rest.length false rest
    else failAt .badKeyStart text

/-- Read a dotted key and the white space after it. -/
def readKey (fuel : Nat) (text : Text) : Except Error (Key × Text) :=
  match fuel with
  | 0 => failAt .badKeyStart text
  | fuel + 1 => do
    let (part, rest) ← readKeyPart text
    match skipSpaces rest with
    | '.' :: rest =>
      let (parts, rest) ← readKey fuel (skipSpaces rest)
      return (part :: parts, rest)
    | rest => return ([part], rest)

/-- The table that holds the last part of a key, seen from where the key is used. -/
def Key.parent (key : Key) : Key := key.dropLast

/-- The last part of a key. -/
def Key.stem (key : Key) : Text := key.getLast?.getD []

/-- Read the equals sign of a pair and the white space after it. -/
def readEquals (text : Text) : Except Error Text :=
  match text with
  | '=' :: rest => .ok (skipSpaces rest)
  | text => failAt .equalsExpected text

/-- Whether nothing may be added to a value once it is written. -/
def isClosed : Setting → Bool
  | .list _ | .table _ => true
  | _ => false

/-- An entry of an inline table added to those before it. -/
def addInline (table : SettingTable) (frozen : List Key) (key : Key) (value : Setting)
    (rest : Text) : Except Error SettingTable :=
  if isFrozen frozen key then failAt (.namespaceFrozen key) rest
  else
    match atPath? false some (Key.parent key) table with
    | none => failAt .valueOverwritten rest
    | some _ =>
      match atPath? false (addEntry (Key.stem key) value) (Key.parent key) table with
      | none => failAt (.duplicateKey (Key.stem key)) rest
      | some table => .ok table

/-- The room that a value has for lists and tables inside one another. -/
def nestingRoom : Nat := 989

/-- The room that a list takes from its items. -/
def listRoom : Nat := 2

/-- The room that an inline table takes from its values. -/
def tableRoom : Nat := 3

mutual

/-- Read a value that has the given room for nested ones. Every step takes fuel; twice the length of
    the document is enough, because of two steps one takes a character. -/
def readValue (fuel room : Nat) (text : Text) : Except Error (Setting × Text) :=
  match fuel with
  | 0 => failAt .invalidValue text
  | fuel + 1 =>
    match text with
    | '[' :: rest =>
      if room < listRoom then failAt .nestedTooDeeply text
      else do
        match ← skipGaps rest with
        | ']' :: rest => return (.list [], rest)
        | rest =>
          let (items, rest) ← readItems fuel (room - listRoom) rest
          return (.list items, rest)
    | '\x7b' :: rest =>
      if room < tableRoom then failAt .nestedTooDeeply text
      else
        match skipSpaces rest with
        | '\x7d' :: rest => .ok (.table [], rest)
        | rest => do
          let (entries, rest) ← readEntries fuel (room - tableRoom) [] [] rest
          return (.table entries, rest)
    | text => readScalar text

/-- Read the items of a list up to its end; at least one follows. -/
def readItems (fuel room : Nat) (text : Text) : Except Error (List Setting × Text) :=
  match fuel with
  | 0 => failAt .unclosedArray text
  | fuel + 1 => do
    let (item, rest) ← readValue fuel room text
    match ← skipGaps rest with
    | ']' :: rest => return ([item], rest)
    | ',' :: rest =>
      match ← skipGaps rest with
      | ']' :: rest => return ([item], rest)
      | rest =>
        let (items, rest) ← readItems fuel room rest
        return (item :: items, rest)
    | rest => failAt .unclosedArray rest

/-- Read the entries of an inline table up to its end; at least one follows. -/
def readEntries (fuel room : Nat) (table : SettingTable) (frozen : List Key) (text : Text) :
    Except Error (SettingTable × Text) :=
  match fuel with
  | 0 => failAt .unclosedTable text
  | fuel + 1 => do
    let (key, rest) ← readKey text.length text
    let rest ← readEquals rest
    let (value, rest) ← readValue fuel room rest
    let table ← addInline table frozen key value rest
    match skipSpaces rest with
    | '\x7d' :: rest => return (table, rest)
    | ',' :: rest =>
      readEntries fuel room table (if isClosed value then key :: frozen else frozen) (skipSpaces rest)
    | rest => failAt .unclosedTable rest

end

/-- The keys of the tables through which a dotted key reaches, seen from the document. -/
def tablesOnTheWay (header key : Key) : List Key :=
  (List.range (key.length - 1)).map fun n => header ++ key.take (n + 1)

/-- Read a key/value pair and add it to the current table. -/
def readPair (document : Document) (text : Text) : Except Error (Document × Text) := do
  let (key, rest) ← readKey text.length text
  let rest ← readEquals rest
  let (value, rest) ← readValue (2 * rest.length) nestingRoom rest
  let onTheWay := tablesOnTheWay document.header key
  if let some taken := onTheWay.find? document.declared.contains then
    failAt (.namespaceRedefined taken) rest
  else
    let parent := document.header ++ Key.parent key
    if isFrozen document.frozen parent then failAt (.namespaceFrozen parent) rest
    else
      match atPath? true (addEntry (Key.stem key) value) parent document.table with
      | none => failAt .valueOverwritten rest
      | some table =>
        let frozen := if isClosed value then (document.header ++ key) :: document.frozen
          else document.frozen
        return ({ document with table, frozen, pending := onTheWay ++ document.pending }, rest)

/-- The document when its current table has ended. -/
def Document.endTable (document : Document) : Document :=
  { document with declared := document.pending ++ document.declared, pending := [] }

/-- Read a table header after its opening bracket. -/
def readTableHeader (document : Document) (text : Text) : Except Error (Document × Text) := do
  let text := skipSpaces text
  let (key, rest) ← readKey (text.length + 1) text
  if document.declared.contains key || isFrozen document.frozen key then
    failAt (.declaredTwice key) rest
  else
    match atPath? true some key document.table with
    | none => failAt .valueOverwritten rest
    | some table =>
      match rest with
      | ']' :: rest =>
        return ({ document with table, header := key, declared := key :: document.declared }, rest)
      | rest => failAt .tableEndExpected rest

/-- Read the header of a list of tables after its opening brackets. -/
def readListHeader (document : Document) (text : Text) : Except Error (Document × Text) := do
  let text := skipSpaces text
  let (key, rest) ← readKey (text.length + 1) text
  if isFrozen document.frozen key then failAt (.namespaceFrozen key) rest
  else
    match atPath? true (addToList (Key.stem key)) (Key.parent key) document.table with
    | none => failAt .valueOverwritten rest
    | some table =>
      match rest with
      | ']' :: ']' :: rest =>
        let outside := fun other => !key.isPrefixOf other
        return ({ document with
          table
          header := key
          frozen := document.frozen.filter outside
          declared := key :: document.declared.filter outside }, rest)
      | rest => failAt .arrayEndExpected rest

/-- Read the statement at the start of a line; nothing before a comment. -/
def readStatement (document : Document) (text : Text) : Except Error (Document × Text) :=
  match text with
  | [] => .ok (document, [])
  | c :: rest =>
    if isBareKeyChar c || c == '"' || c == '\'' then readPair document text
    else if c == '[' then
      match rest with
      | '[' :: rest => readListHeader document.endTable rest
      | rest => readTableHeader document.endTable rest
    else if c == '#' then .ok (document, text)
    else failAt .invalidStatement text

/-- Read lines up to the end of the text. Every line takes fuel; the length of the text is enough. -/
def readLines (fuel : Nat) (document : Document) (text : Text) : Except Error Document :=
  match fuel, skipSpaces text with
  | _, [] => .ok document
  | 0, _ => .ok document
  | fuel + 1, '\n' :: rest => readLines fuel document rest
  | fuel + 1, text => do
    let (document, rest) ← readStatement document text
    match ← skipComment (skipSpaces rest) with
    | [] => return document
    | '\n' :: rest => readLines fuel document rest
    | rest => failAt .newlineExpected rest

/-- The table that a document holds. A table may be opened by a header only once, a dotted key may not reach into a
    table that a header opened, and nothing may be added to a list or table that was written as a value. Values may be
    nested, but not without end. -/
def read (text : Text) : Except Error SettingTable :=
  (readLines text.length .empty text).map Document.table

end Toml

end TemplateAudit
