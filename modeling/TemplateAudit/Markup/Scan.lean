import Std.Data.HashSet
import TemplateAudit.Markup.Tag
import TemplateAudit.Text.Search

namespace TemplateAudit

/-- A reader of the start tag whose `<` stands at the given offset and is followed by the given
    text, with a memory that it hands on to the next reading. -/
abbrev TagReader (σ : Type) := σ → Nat → Text → Option WrittenTag × σ

/-- The start tags of `text`, its first character standing at `offset`. One loop walks the text from `<` to `<`: it
    skips comments, end tags and declarations, takes a start tag where one can be read, and otherwise goes on one
    character later. How a start tag is read is a parameter. The plain reader reads every tag from scratch to the end
    of the text. The quick reader gives the same tags in linear time: it looks only at the text up to its last `>`,
    because no tag ends later, it remembers the places between attributes from which no `>` can be reached, and it
    remembers where the tag name it last looked at ends, because a `<` inside a tag name shares that end. -/
def tagsBy {σ : Type} (read : TagReader σ) (memory : σ) (offset : Nat) (text : Text) : List Tag :=
  match text with
  | [] => []
  | [_] => []
  | c :: next :: rest =>
    if c != '<' then tagsBy read memory (offset + 1) (next :: rest)
    else if ("!--" : Text).isPrefixOf (next :: rest) then
      match h : Text.splitAtFirst? "-->" (rest.drop 2) with
      | none => []
      | some (body, after) => tagsBy read memory (offset + 4 + body.length + 3) after
    else if next == '/' || next == '!' || next == '?' then
      match h : rest.dropWhile (· != '>') with
      | [] => []
      | _ :: after =>
        tagsBy read memory (offset + 2 + (rest.takeWhile (· != '>')).length + 1) after
    else if next.isAlpha then
      match read memory offset (next :: rest) with
      | (none, memory) => tagsBy read memory (offset + 1) (next :: rest)
      | (some tag, memory) =>
        tag.locate offset
          :: tagsBy read memory (offset + tag.text.length)
            ((next :: rest).drop (tag.text.length - 1))
    else tagsBy read memory (offset + 1) (next :: rest)
termination_by text.length
decreasing_by
  all_goals simp only [List.length_cons, List.length_drop]
  · omega
  · have hsplit := congrArg List.length (Text.append_of_splitAtFirst? h)
    simp only [List.length_append, List.length_drop] at hsplit
    omega
  · have := Text.length_lt_of_dropWhile_eq_cons h
    omega
  · omega
  · omega
  · omega

/-- Reads every tag from scratch, to the end of the text if need be. -/
def plainReader : TagReader Unit := fun _ _ text =>
  ((WrittenTag.read? text).map (·.1), ())

/-- All start tags of a text, in document order. -/
def plainTags (text : Text) : List Tag := tagsBy plainReader () 0 text

/-- What the quick reader remembers of a text: the offsets between attributes from which no `>` can
    be reached, and the end of the last tag name with the text that follows it. -/
structure ScanMemory where
  dead : Std.HashSet Nat
  nameStop : Nat
  nameRest : Text

/-- Nothing is known yet. -/
def ScanMemory.empty : ScanMemory := ⟨∅, 0, []⟩

/-- Read items up to the closing `>`, giving up at a dead offset. `read` holds the items so far, the
    latest first, and `visited` the offsets at which they start; all of these turn out dead if the
    reading fails. -/
def readItems (dead : Std.HashSet Nat) (read : List TagItem) (visited : List Nat)
    (offset : Nat) (text : Text) : Option (List TagItem) × Std.HashSet Nat :=
  match text with
  | [] => (none, dead.insertMany visited)
  | c :: rest =>
    if dead.contains offset then (none, dead.insertMany visited)
    else if c == '>' then (some read.reverse, dead)
    else
      match _h : TagItem.read? (c :: rest) with
      | none => (none, dead.insertMany (offset :: visited))
      | some (item, remaining) =>
        readItems dead (item :: read) (offset :: visited) (offset + item.text.length) remaining
termination_by text.length
decreasing_by exact TagItem.length_of_read? (by assumption)

/-- The memory with the end of the tag name that starts after the `<` at `offset`. A `<` before the
    remembered end lies inside the tag name that ends there. -/
def ScanMemory.seekNameStop (memory : ScanMemory) (offset : Nat) (text : Text) : ScanMemory :=
  if offset < memory.nameStop then memory
  else
    { memory with
      nameStop := offset + 1 + (text.takeWhile (!endsTagName ·)).length
      nameRest := text.dropWhile (!endsTagName ·) }

/-- Reads a tag with the help of what earlier readings of the same text found out. -/
def quickReader : TagReader ScanMemory := fun memory offset text =>
  let memory := memory.seekNameStop offset text
  match readItems memory.dead [] [] memory.nameStop memory.nameRest with
  | (none, dead) => (none, { memory with dead := dead })
  | (some items, dead) =>
    (some ⟨text.take (memory.nameStop - (offset + 1)), items⟩, { memory with dead := dead })

/-- The text up to and including its last `>`; nothing if it has none. -/
def throughLastClose (text : Text) : Text := Text.dropWhileEnd (· != '>') text

/-- All start tags of a text, in document order, in linear time. -/
def quickTags (text : Text) : List Tag :=
  tagsBy quickReader .empty 0 (throughLastClose text)

/-- The start tag whose `<` stands at `offset`, read without any memory. -/
def tagAt? (text : Text) (offset : Nat) : Option Tag :=
  (quickReader .empty offset ((throughLastClose text).drop (offset + 1))).1.map (·.locate offset)

/-- The start tags of a text whose lower-case name is the lower case of a given one; all of them if
    no names are given. -/
def scanTags (text : Text) (names : Option (List Text)) : List Tag :=
  match names with
  | none => quickTags text
  | some names =>
    let wanted := names.map Text.lower
    (quickTags text).filter fun tag => wanted.contains tag.name

end TemplateAudit
