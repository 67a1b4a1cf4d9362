import TemplateAudit.Proofs.Loops
import TemplateAudit.Proofs.Markup.Machine.Walk

namespace TemplateAudit

/-- The last offset at which a character stands. -/
def Text.lastIndex? (text : Text) (mark : Char) : Option Nat :=
  match text with
  | [] => none
  | c :: rest =>
    match Text.lastIndex? rest mark with
    | some i => some (i + 1)
    | none => if c = mark then some 0 else none

/-- Whether a `>` stands at the offset or later, told by the offset of the last one. -/
def mayClose (text : Text) (offset : Nat) : Bool := (text.lastIndex? '>').any (offset ≤ ·)

/-- The machine before it looks at the first character after a tag name that ends at `stop`. -/
def TagMachine.opened (text : Text) (start stop : Nat) : TagMachine where
  tagName := (text.slice (start + 1) stop).lower
  tagStart := start
  state := .beforeAttributeName
  position := stop
  nameStart := start
  nameEnd := start
  valueStart := 0
  quote := ' '
  slash := false
  attributes := []

/-- The loop that the search is in: the walk, which searches for the next `<` from `position` on; the loop over
    the characters of the tag name behind the `<` at `start`; or the reading of what follows the name, with the
    offsets at which the machine has been between attributes, the latest first. -/
inductive SearchPlace where
  | walking (position : Nat)
  | naming (start position : Nat)
  | reading (machine : TagMachine) (visited : List Nat)

/-- A search on its way: the tags found so far, the offsets from which no tag closes, and the end of the last
    tag name, or zero. -/
structure TagSearch where
  place : SearchPlace
  found : List Tag
  dead : List Nat
  nameStop : Nat

namespace TagSearch

/-- The search at the beginning of a text. -/
def start : TagSearch := ⟨.walking 0, [], [], 0⟩

/-- Whether a tag has one of the names that are searched for. -/
def isWanted (names : Option (List Text)) (tag : Tag) : Bool :=
  names.all fun names => (names.map Text.lower).contains tag.name

/-- The walk goes on at the given offset. -/
def walkOn (search : TagSearch) (position : Nat) : TagSearch :=
  { search with place := .walking position }

/-- The tag name ends at `stop`: the machine reads on there, or the walk goes on if no `>` is left. -/
def endName (search : TagSearch) (text : Text) (start stop : Nat) : TagSearch :=
  { search with
    place :=
      if mayClose text stop then .reading (TagMachine.opened text start stop) []
      else .walking (start + 1)
    nameStop := stop }

/-- A tag is tried at a `<`. If that stands inside the last tag name, it shares the end of that name. -/
def tryTag (search : TagSearch) (text : Text) (start : Nat) : TagSearch :=
  if start < search.nameStop then search.endName text start search.nameStop
  else { search with place := .naming start (start + 1) }

/-- The tag is not closed or a quote of it has no partner. No tag closes from any offset that the machine has
    been at between attributes, and the walk goes on behind the `<`. -/
def giveUp (search : TagSearch) (machine : TagMachine) (visited : List Nat) : TagSearch :=
  { search with
    place := .walking (machine.tagStart + 1)
    dead := visited ++ search.dead }

/-- The tag is found, and the walk goes on behind it. -/
def take (search : TagSearch) (names : Option (List Text)) (tag : Tag) : TagSearch :=
  { search with
    place := .walking tag.stop
    found := if isWanted names tag then search.found ++ [tag] else search.found }

/-- A pass of the walk. -/
def walk (text : Text) (search : TagSearch) (position : Nat) : Pass TagSearch (List Tag) :=
  match text.indexFrom? ['<'] position with
  | none => .ends search.found
  | some start =>
    if mayClose text start then
      if ("<!--" : Text).isPrefixOf (text.drop start) then
        match text.indexFrom? "-->" (start + 4) with
        | none => .ends search.found
        | some close => .goesOn (search.walkOn (close + 3))
      else
        match text[start + 1]? with
        | none => .goesOn (search.walkOn (start + 1))
        | some next =>
          if next = '/' ∨ next = '!' ∨ next = '?' then
            -- The outcome is not checked: without a `>` the walk would start all over again.
            .goesOn (search.walkOn ((text.indexFrom? ['>'] (start + 2)).elim 0 (· + 1)))
          else if next.isAlpha then .goesOn (search.tryTag text start)
          else .goesOn (search.walkOn (start + 1))
    else .ends search.found

/-- A pass of an inner loop: it looks at the character at `position`, unless the last `>` stands before that. -/
def look (text : Text) (position : Nat) (past : TagSearch) (seen : Char → TagSearch) :
    Pass TagSearch (List Tag) :=
  if mayClose text position then
    match text[position]? with
    | none => .looksOutside
    | some c => .goesOn (seen c)
  else .goesOn past

/-- A character of a tag name is left behind, or it ends the name. -/
def name (search : TagSearch) (text : Text) (start position : Nat) (c : Char) : TagSearch :=
  if endsTagName c then search.endName text start position
  else { search with place := .naming start (position + 1) }

/-- The offsets at which the machine has been between attributes, the present one included. -/
def visits (machine : TagMachine) (visited : List Nat) : List Nat :=
  if machine.state = .beforeAttributeName then machine.position :: visited else visited

/-- The machine looks at a character, unless it is between attributes at an offset that is known to be dead. -/
def read (search : TagSearch) (text : Text) (names : Option (List Text)) (machine : TagMachine)
    (visited : List Nat) : TagSearch :=
  if machine.state = .beforeAttributeName ∧ machine.position ∈ search.dead then
    search.giveUp machine visited
  else
    match machine.step text with
    | .closed => search.take names machine.finished
    | .stuck => search.giveUp machine (visits machine visited)
    | .moved next => { search with place := .reading next (visits machine visited) }

/-- One pass of the loop that the search is in. -/
def pass (text : Text) (names : Option (List Text)) (search : TagSearch) : Pass TagSearch (List Tag) :=
  match search.place with
  | .walking position => walk text search position
  | .naming start position =>
    look text position (search.endName text start position) (search.name text start position)
  | .reading machine visited =>
    look text machine.position (search.giveUp machine visited)
      fun _ => search.read text names machine visited

end TagSearch

end TemplateAudit
