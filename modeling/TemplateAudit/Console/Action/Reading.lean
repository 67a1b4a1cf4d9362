import TemplateAudit.Console.Action.Pattern

namespace TemplateAudit

namespace Action

namespace Reading

/-- What a rule found at a place, and where it ended. -/
structure Remembered where
  rule : Rule
  found : Option Value
  mark : Nat

/-- A grammar. -/
structure Grammar where
  alternatives : Rule → List Alternative
  memory : Rule → Memory
  /-- The rule does not look for mistakes. -/
  isLenient : Rule → Bool

/-- What a reader works with. -/
structure Reader where
  grammar : Grammar
  tokens : Array Lexeme
  origin : Origin
  readTexts : List Literal → Built

/-- How far a reader is. -/
structure State where
  /-- The next token. -/
  mark : Nat
  /-- How many tokens have been looked at. -/
  seen : Nat
  /-- What has been found at each place. -/
  memory : Array (List Remembered)
  /-- Whether the reader looks for mistakes. -/
  strict : Bool

/-- What comes of a pattern. -/
inductive Result where
  | found (value : Value)
  | absent
  | stopped (stop : Stop)

/-- Try a pattern. -/
abbrev Step := State → Result × State

namespace Reader

/-- A fault that is told as one in a field, if it is. -/
def toldFault (reader : Reader) (fault : SyntaxFault) : SyntaxFault :=
  if reader.origin.inField then .inField fault else fault

/-- A complaint that points at a column, counted from one, if it points at any. In a field the
    column is told relative to that of the field, and a complaint that would point further left is
    lost. -/
def complaintAt (reader : Reader) (fault : SyntaxFault) (column : Option Nat) : Stop :=
  if reader.origin.inField && column.any (· < reader.origin.column) then .unshowable
  else .fault (reader.toldFault fault)

/-- A complaint of the reader itself about a token. -/
def complaintAbout (reader : Reader) (fault : SyntaxFault) (index : Nat) : Stop :=
  reader.complaintAt fault
    ((reader.tokens[index]?).map fun lexeme => reader.origin.columnOf lexeme.spot + 1)

/-- A complaint of the reader itself; `starts` are the first tokens of the patterns in a list. -/
def complaint (reader : Reader) (state : State) (starts : List Nat) (fault : SyntaxFault) :
    Pointer → Stop
  | .last => reader.complaintAbout fault (state.seen - 1)
  | .item index => reader.complaintAbout fault ((starts[index]?).getD state.mark)
  | .spot spot => reader.complaintAt fault (some (reader.origin.columnOf spot + 1))
  | .line => reader.complaintAt fault (some 0)

/-- The names that are keywords in other places. -/
def softKeywords : List String := ["_", "case", "match"]

/-- What a token is if it is what is wanted. -/
def accept (reader : Reader) (wanted : Wanted) (token : Token) : Result :=
  match wanted, token with
  | .name, .name text => .found (.expression (.name text))
  | .softKeyword, .name text =>
    if softKeywords.any fun word => text.isPrefixOf word.toList then
      .found (.expression (.name text))
    else .absent
  | .number, .number magnitude none => .found (.expression (.number magnitude))
  | .number, .number _ (some fault) => .stopped (reader.complaintAt fault (some 0))
  | .text, .text literal => .found (.literal literal)
  | .mark sign, .mark given => if sign = given then .found (.word given) else .absent
  | .keyword word, .keyword given => if word = given then .found (.word given) else .absent
  | .newline, .newline => .found .nothing
  | .stop, .stop => .found .nothing
  | _, _ => .absent

/-- Look at the next token, and take it if it is what is wanted. -/
def expect (reader : Reader) (wanted : Wanted) : Step := fun state =>
  match reader.tokens[state.mark]? with
  | none => (.absent, state)
  | some lexeme =>
    let state := { state with seen := max state.seen (state.mark + 1) }
    match lexeme.token with
    | .broken (.wrong fault) => (.stopped (.fault fault), state)
    | .broken (.lost fault _) => (.stopped (reader.complaintAt fault none), state)
    | token =>
      match reader.accept wanted token with
      | .found value => (.found value, { state with mark := state.mark + 1 })
      | result => (result, state)

/-- What an alternative can see where the reader is. -/
def view (reader : Reader) (state : State) : View :=
  ⟨((reader.tokens[state.mark - 1]?).map Lexeme.level).getD 0, reader.readTexts⟩

/-- What was remembered of a rule at the place where the reader is. -/
def remembered? (state : State) (rule : Rule) : Option Remembered :=
  (state.memory[state.mark]?).bind fun found => found.find? (·.rule == rule)

/-- Remember what a rule found at a place; the reader is where it ended. -/
def remember (state : State) (place : Nat) (rule : Rule) (found : Option Value) : State :=
  let entry : Remembered := ⟨rule, found, state.mark⟩
  { state with memory := state.memory.modify place fun others =>
      entry :: others.filter (·.rule != rule) }

/-- What was remembered as a result. -/
def recalled (state : State) (entry : Remembered) : Result × State :=
  match entry.found with
  | some value => (.found value, { state with mark := entry.mark })
  | none => (.absent, { state with mark := entry.mark })

/-- The reader back at a place. -/
def back (state : State) (mark : Nat) : State := { state with mark }

/-- Match patterns that are no rules, lists or choices themselves; `enter` matches those. -/
def item (reader : Reader) (enter : Pattern → Step) : Pattern → Step
  | .token wanted => reader.expect wanted
  | .optional pattern => fun state =>
    match item reader enter pattern state with
    | (.absent, after) => (.found .nothing, back after state.mark)
    | result => result
  | .ahead pattern => fun state =>
    match item reader enter pattern state with
    | (.found _, after) => (.found .nothing, back after state.mark)
    | (result, after) => (result, back after state.mark)
  | .notAhead pattern => fun state =>
    match item reader enter pattern state with
    | (.found _, after) => (.absent, back after state.mark)
    | (.absent, after) => (.found .nothing, back after state.mark)
    | (result, after) => (result, after)
  | .cut => fun state => (.found .nothing, state)
  | pattern => enter pattern

/-- What comes of a list of patterns. -/
inductive Sequence where
  /-- All match; `starts` are their first tokens. -/
  | found (values : List Value) (starts : List Nat)
  /-- A pattern does not match; `final` tells that no other list is to be tried. -/
  | absent (final : Bool)
  | stopped (stop : Stop)

/-- Match patterns one after the other; `found` and `starts` are what those before have found and
    where they start, the last one first. -/
def sequence (item : Pattern → Step) (final : Bool) (found : List Value) (starts : List Nat) :
    List Pattern → State → Sequence × State
  | [], state => (.found found.reverse starts.reverse, state)
  | .cut :: rest, state => sequence item true found starts rest state
  | pattern :: rest, state =>
    match item pattern state with
    | (.found value, after) =>
      sequence item final (value :: found) (state.mark :: starts) rest after
    | (.absent, after) => (.absent final, after)
    | (.stopped stop, after) => (.stopped stop, after)

/-- The first of some lists of patterns that matches. -/
def firstOf (item : Pattern → Step) : List (List Pattern) → Step
  | [], state => (.absent, state)
  | patterns :: rest, state =>
    match sequence item false [] [] patterns state with
    | (.found values _, after) => (.found (.many values), after)
    | (.absent final, after) =>
      let state := back after state.mark
      if final then (.absent, state) else firstOf item rest state
    | (.stopped stop, after) => (.stopped stop, after)

/-- What the first alternative builds that matches. One that matches and builds nothing is the last
    that is tried. -/
def firstAlternative (reader : Reader) (item : Pattern → Step) : List Alternative → Step
  | [], state => (.absent, state)
  | alternative :: rest, state =>
    if alternative.strict && !state.strict then firstAlternative reader item rest state
    else
      match sequence item false [] [] alternative.items state with
      | (.found values starts, after) =>
        match alternative.build (reader.view after) values with
        | .value value => (.found value, after)
        | .absent => (.absent, after)
        | .complaint fault pointer =>
          (.stopped (reader.complaint after starts fault pointer), after)
        | .stop stop => (.stopped stop, after)
      | (.absent final, after) =>
        let state := back after state.mark
        if final then (.absent, state) else firstAlternative reader item rest state
      | (.stopped stop, after) => (.stopped stop, after)

/-- Match a step as often as possible. Each time takes a token, so their number is fuel enough. -/
def repeatedly (step : Step) (found : List Value) : Nat → State → Result × State
  | 0, state => (.found (.many found.reverse), state)
  | fuel + 1, state =>
    match step state with
    | (.found value, after) =>
      if after.mark ≤ state.mark then (.found (.many found.reverse), after)
      else repeatedly step (value :: found) fuel after
    | (.absent, after) => (.found (.many found.reverse), back after state.mark)
    | (.stopped stop, after) => (.stopped stop, after)

/-- Try the body of a rule that may start with itself as long as it finds more. Each time takes a
    token, so their number is fuel enough. -/
def grow (step : Step) (rule : Rule) (place : Nat) (best : Option Value) (reached : Nat) :
    Nat → State → Result × State
  | 0, state => (.absent, state)
  | fuel + 1, state =>
    let state := remember state place rule best
    match step (back state place) with
    | (.stopped stop, after) => (.stopped stop, after)
    | (.found value, after) =>
      if after.mark ≤ reached then finish best after
      else grow step rule place (some value) after.mark fuel after
    | (.absent, after) => finish best after
where
  /-- What was found in the end. -/
  finish (best : Option Value) (state : State) : Result × State :=
    match best with
    | some value => (.found value, back state reached)
    | none => (.absent, back state reached)

/-- Try a rule that remembers what it finds. -/
def keep (step : Step) (rule : Rule) : Step := fun state =>
  match remembered? state rule with
  | some entry => recalled state entry
  | none =>
    match step state with
    | (.found value, after) => (.found value, remember after state.mark rule (some value))
    | (.absent, after) => (.absent, remember after state.mark rule none)
    | result => result

/-- Try a rule that does not look for mistakes. -/
def leniently (step : Step) : Step := fun state =>
  let (result, after) := step { state with strict := false }
  (result, { after with strict := state.strict })

/-- Match a rule, a list or a choice, with room for so many inside one another. -/
def enter (reader : Reader) : Nat → Pattern → Step
  | 0, _, state => (.stopped .tooDeep, state)
  | room + 1, pattern, state =>
    let item := reader.item (enter reader room)
    match pattern with
    | .rule rule =>
      match reader.grammar.memory rule with
      | .none =>
        let step := firstAlternative reader item (reader.grammar.alternatives rule)
        if reader.grammar.isLenient rule then leniently step state else step state
      | .kept => keep (firstAlternative reader item (reader.grammar.alternatives rule)) rule state
      | .growing =>
        match remembered? state rule with
        | some entry => recalled state entry
        | none =>
          grow (item (.body rule)) rule state.mark none state.mark (reader.tokens.size + 1) state
    | .body rule => firstAlternative reader item (reader.grammar.alternatives rule) state
    | .many inner => repeatedly (item inner) [] (reader.tokens.size + 1) state
    | .several inner =>
      match repeatedly (item inner) [] (reader.tokens.size + 1) state with
      | (.found (.many []), after) => (.absent, back after state.mark)
      | result => result
    | .separated sign inner =>
      match item inner state with
      | (.found first, after) =>
        match item (.following sign inner) after with
        | (.found (.many rest), after) => (.found (.many (first :: rest)), after)
        | result => result
      | (.absent, after) => (.absent, back after state.mark)
      | result => result
    | .following sign inner =>
      let step : Step := fun state =>
        match reader.expect (.mark sign) state with
        | (.found _, after) => item inner after
        | result => result
      repeatedly step [] (reader.tokens.size + 1) state
    | .choice lists => firstOf item lists state
    | _ => (.absent, state)

/-- How many rules, lists and choices may be inside one another. -/
def maxDepth : Nat := 6000

/-- Read tokens by a rule, from the first one on. A rule is tried at a place in the tokens. What some rules find is
    remembered for each place, and a rule that may start with itself is tried again as long as it finds more. Rules
    may be inside one another only to a certain depth, on which the reader recurs. -/
def read (reader : Reader) (rule : Rule) (strict : Bool) (seen : Nat) : Result × State :=
  reader.enter maxDepth (.rule rule)
    ⟨0, seen, Array.replicate (reader.tokens.size + 1) [], strict⟩

end Reader

end Reading

end Action

end TemplateAudit
