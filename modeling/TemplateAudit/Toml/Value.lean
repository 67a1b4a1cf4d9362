import TemplateAudit.Number.Numeral
import TemplateAudit.Number.Shortest
import TemplateAudit.Text.Quoted

namespace TemplateAudit

/-- A day of the calendar. -/
structure CalendarDate where
  year : Nat
  month : Nat
  day : Nat
deriving DecidableEq, Repr

/-- A time of day. -/
structure ClockTime where
  hour : Nat
  minute : Nat
  second : Nat
  microsecond : Nat
deriving DecidableEq, Repr

/-- A value. Tables keep the order in which their keys were first set. -/
inductive Setting where
  /-- No value. -/
  | absent
  | bool (value : Bool)
  | int (value : Int)
  | float (value : Binary64)
  | text (value : Text)
  | date (value : CalendarDate)
  | time (value : ClockTime)
  /-- A date and a time, with the distance from universal time in minutes if it is known. -/
  | moment (date : CalendarDate) (time : ClockTime) (offset : Option Int)
  | list (items : List Setting)
  | table (entries : List (Text × Setting))
deriving Repr

/-- The entries of a table. -/
abbrev SettingTable := List (Text × Setting)

/-- The value of a key. -/
def SettingTable.value? (table : SettingTable) (key : Text) : Option Setting := table.lookup key

namespace Setting

/-- The numbers that name a time, without seconds and microseconds that are zero at its end. -/
def ClockTime.parts (time : ClockTime) : List Nat :=
  if time.microsecond ≠ 0 then [time.hour, time.minute, time.second, time.microsecond]
  else if time.second ≠ 0 then [time.hour, time.minute, time.second]
  else [time.hour, time.minute]

/-- Numbers with commas between them. -/
def numbers (parts : List Nat) : Text := Text.join ", " (parts.map Text.ofNat)

/-- The distance from universal time, given in minutes. -/
def shownOffset (minutes : Int) : Text :=
  if minutes = 0 then "datetime.timezone.utc"
  else
    let delta : Text :=
      if minutes < 0 then "days=-1, seconds=" ++ Text.ofInt (86400 + 60 * minutes)
      else "seconds=" ++ Text.ofInt (60 * minutes)
    "datetime.timezone(datetime.timedelta(" ++ delta ++ "))"

mutual

/-- A value as complaints show it. -/
def shown : Setting → Text
  | .absent => "None"
  | .bool true => "True"
  | .bool false => "False"
  | .int n => Text.ofInt n
  | .float x => x.text
  | .text t => t.quoted
  | .date d => "datetime.date(" ++ numbers [d.year, d.month, d.day] ++ ")"
  | .time t => "datetime.time(" ++ numbers (ClockTime.parts t) ++ ")"
  | .moment d t offset =>
    let zone : Text := match offset with
      | none => []
      | some minutes => ", tzinfo=" ++ shownOffset minutes
    "datetime.datetime(" ++ numbers ([d.year, d.month, d.day] ++ ClockTime.parts t) ++ zone ++ ")"
  | .list items => "[" ++ shownItems items ++ "]"
  | .table entries => "\x7b" ++ shownEntries entries ++ "\x7d"

/-- Items with commas between them. -/
def shownItems : List Setting → Text
  | [] => []
  | [item] => item.shown
  | item :: rest => item.shown ++ ", " ++ shownItems rest

/-- Entries with commas between them. -/
def shownEntries : List (Text × Setting) → Text
  | [] => []
  | [(key, value)] => key.quoted ++ ": " ++ value.shown
  | (key, value) :: rest => key.quoted ++ ": " ++ value.shown ++ ", " ++ shownEntries rest

end

/-- Why a value cannot be shown. -/
inductive ShowFault where
  | integerTooLong
  /-- More values lie inside one another than can be shown at once. -/
  | nestedTooDeeply
deriving DecidableEq, Repr

/-- How many values are shown inside a scalar: a distance from universal time is one, and in it stands the difference
    unless there is none. -/
def innerValues : Setting → Nat
  | .moment _ _ (some minutes) => if minutes = 0 then 1 else 2
  | _ => 0

mutual

/-- What keeps a value from being shown, if anything does: the first fault from left to right. There is room for
    showing `room` values inside one another. -/
def showFault? (room : Nat) (value : Setting) : Option ShowFault :=
  match room with
  | 0 => some .nestedTooDeeply
  | room + 1 =>
    match value with
    | .int n => if Numeral.isTooLong n then some .integerTooLong else none
    | .list items => showFaultOfItems? room items
    | .table entries => showFaultOfEntries? room entries
    | value => if room < value.innerValues then some .nestedTooDeeply else none

/-- What keeps items from being shown, one after another. -/
def showFaultOfItems? (room : Nat) : List Setting → Option ShowFault
  | [] => none
  | item :: rest => (showFault? room item).or (showFaultOfItems? room rest)

/-- What keeps the values of entries from being shown, one after another. -/
def showFaultOfEntries? (room : Nat) : List (Text × Setting) → Option ShowFault
  | [] => none
  | (_, value) :: rest => (showFault? room value).or (showFaultOfEntries? room rest)

end

/-- The name of a value's kind in complaints. -/
def kindName : Setting → Text
  | .absent => "NoneType"
  | .bool _ => "bool"
  | .int _ => "int"
  | .float _ => "float"
  | .text _ => "str"
  | .date _ => "datetime.date"
  | .time _ => "datetime.time"
  | .moment .. => "datetime.datetime"
  | .list _ => "list"
  | .table _ => "dict"

end Setting

end TemplateAudit
