import TemplateAudit.Console.Color
import TemplateAudit.Number.Numeral
import TemplateAudit.Text.Blank
import TemplateAudit.Text.Case
import TemplateAudit.Text.Digit

namespace TemplateAudit

namespace Style

/-- The attributes in the order in which a canonical name lists them. -/
def attributes : List Text :=
  ["bold", "dim", "italic", "underline", "blink", "blink2", "reverse", "conceal", "strike",
   "underline2", "frame", "encircle", "overline"]

/-- Abbreviations of attributes. -/
def abbreviations : List (Text × Text) :=
  [("b", "bold"), ("d", "dim"), ("i", "italic"), ("u", "underline"), ("r", "reverse"),
   ("c", "conceal"), ("s", "strike"), ("uu", "underline2"), ("o", "overline")]

/-- The attribute that a word names. -/
def attribute? (word : Text) : Option Text :=
  if attributes.contains word then some word else abbreviations.lookup word

/-- The text between a head and a closing parenthesis. -/
def argument? (head word : Text) : Option Text :=
  match head.isPrefixOf? word with
  | none => none
  | some rest => if rest.getLast? = some ')' then some rest.dropLast else none

/-- Why a number in a colour cannot be read. -/
inductive NumberFault where
  | missing
  | tooLong (digits : Nat)
deriving DecidableEq, Repr

/-- The complaint about a number. -/
def NumberFault.message : NumberFault → Text
  | .missing => "invalid literal for int() with base 10: ''"
  | .tooLong digits => Numeral.unreadable digits

/-- Why words are no style. -/
inductive Fault where
  | unknown
  | number (fault : NumberFault)
deriving DecidableEq, Repr

/-- The number that decimal digits of any script spell. -/
def readNumber (digits : Text) : Except Fault Nat :=
  if digits.isEmpty then .error (.number .missing)
  else if Numeral.maxDigits < digits.length then .error (.number (.tooLong digits.length))
  else .ok (digits.foldl (fun n c => 10 * n + (digitValue? c).getD 0) 0)

/-- Whether a word in lower case is the name of a colour, its code, or its number in the palette. -/
def isListedColor (word : Text) : Bool :=
  word == ("default" : Text) || colorNames.any (fun name => name.toList == word)
    || (match word with
      | '#' :: digits => digits.length == 6
          && digits.all fun c => c.isDigit || ('a' ≤ c && c ≤ 'f')
      | _ => false)
    || (match argument? "color(" word with
      | some number => !number.isEmpty && number.length ≤ 3 && number.all Char.isDigit
          && Text.digitsToNat number ≤ 255
      | none => false)

/-- Check a mixture of red, green and blue. All three numbers are read before any is compared. -/
def checkMixture (parts : Text) : Except Fault Unit :=
  if !parts.isEmpty && parts.all fun c => c == ',' || isDecimalDigit c then
    match Text.splitAll ',' parts with
    | [red, green, blue] => do
      let red ← readNumber red
      let green ← readNumber green
      let blue ← readNumber blue
      if red ≤ 255 && green ≤ 255 && blue ≤ 255 then return () else throw .unknown
    | _ => .error .unknown
  else .error .unknown

/-- Check that a word in lower case is a colour. -/
def checkColor (word : Text) : Except Fault Unit :=
  if isListedColor word then .ok ()
  else
    match argument? "rgb(" word with
    | some parts => checkMixture parts
    | none => .error .unknown

/-- What the words of a style ask for. -/
structure Wishes where
  switches : List (Text × Bool)
  color : Option Text
  background : Option Text
  link : Option Text

/-- Add the wish of a word that needs no other; fails on a word that is part of no style. -/
def Wishes.readWord (wishes : Wishes) (word : Text) : Except Fault Wishes :=
  match attribute? word.lower with
  | some name => .ok { wishes with switches := (name, true) :: wishes.switches }
  | none => do
    checkColor word.lower
    return { wishes with color := some word.lower }

/-- Add the wishes of further words. -/
def Wishes.read (wishes : Wishes) : List Text → Except Fault Wishes
  | [] => .ok wishes
  | [word] => wishes.readWord word
  | word :: next :: rest =>
    if word.lower == ("on" : Text) then do
      checkColor next.lower
      Wishes.read { wishes with background := some next.lower } rest
    else if word.lower == ("not" : Text) then
      match attribute? next with
      | some name => Wishes.read { wishes with switches := (name, false) :: wishes.switches } rest
      | none => .error .unknown
    else if word.lower == ("link" : Text) then
      Wishes.read { wishes with link := some next } rest
    else do
      let wishes ← wishes.readWord word
      Wishes.read wishes (next :: rest)

/-- The canonical name of wishes. -/
def Wishes.name (wishes : Wishes) : Text :=
  let switches := attributes.filterMap fun name =>
    (wishes.switches.lookup name).map fun on => if on then name else "not " ++ name
  let parts := switches ++ wishes.color.toList
    ++ (wishes.background.map fun color => ("on " : Text) ++ color).toList
    ++ (wishes.link.map fun address => ("link " : Text) ++ address).toList
  if parts.isEmpty then "none" else Text.join " " parts

/-- The words of a text. -/
def words (text : Text) : List Text :=
  (Text.splitAll ' ' (text.map fun c => if isBlank c then ' ' else c)).filter (!·.isEmpty)

/-- The wishes that a text asks for. -/
def parse (text : Text) : Except Fault Wishes :=
  if text.trim == ("none" : Text) then .ok ⟨[], none, none, none⟩
  else Wishes.read ⟨[], none, none, none⟩ (words text)

/-- The canonical name of a style. A style is written as words: attributes such as `bold` and their abbreviations, a
    colour, `on` and a background colour, `not` and an attribute, `link` and an address. Two spellings that ask for
    the same style have the same canonical name. A text that is no style stands for itself in lower case, unless its
    first mistake is a number that cannot be read in an otherwise well-formed colour: that is an error. -/
def canonical (text : Text) : Except NumberFault Text :=
  match parse text with
  | .ok wishes => .ok wishes.name
  | .error .unknown => .ok text.trim.lower
  | .error (.number fault) => .error fault

/-- The number in a style that cannot be read, if that is its first mistake. -/
def numberFault? (text : Text) : Option NumberFault :=
  match parse text with
  | .error (.number fault) => some fault
  | _ => none

end Style

end TemplateAudit
