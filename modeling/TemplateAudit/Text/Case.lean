import TemplateAudit.Text.Basic
import TemplateAudit.Text.Case.Context
import TemplateAudit.Text.Case.Lower
import TemplateAudit.Text.Case.Upper

namespace TemplateAudit

/-- Whether a character is a letter with case, seen from a neighbouring sigma. -/
def isCased (c : Char) : Bool := casedRanges.contains c

/-- Whether a character is passed over when a sigma looks for its neighbours. -/
def isCaseIgnorable (c : Char) : Bool := caseIgnorableRanges.contains c

/-- Whether a cased letter is the first character that is not passed over. -/
def facesCased (neighbours : Text) : Bool :=
  match neighbours.dropWhile isCaseIgnorable with
  | [] => false
  | c :: _ => isCased c

/-- Lower-case image of one character outside any context. -/
def lowerChar (c : Char) : Text :=
  if c.toNat < 0x80 then [c.toLower]
  else if c.toNat = 0x130 then [Char.ofNat 0x69, Char.ofNat 0x307]
  else [Char.ofNat (CaseRun.apply lowerRuns c.toNat)]

/-- Lower case of a text whose preceding characters, nearest first, are `before`. -/
def lowerFrom (before : Text) : Text → Text
  | [] => []
  | c :: rest =>
    (if c.toNat = 0x3A3 && facesCased before && !facesCased rest then [Char.ofNat 0x3C2]
      else lowerChar c) ++ lowerFrom (c :: before) rest

/-- The text in lower case. Lower case is taken character by character, with two exceptions: a dotted capital I
    becomes two characters, and a capital sigma at the end of a word takes its final form. Upper case never looks at
    the neighbours but may turn one character into up to three. -/
def Text.lower (text : Text) : Text := lowerFrom [] text

/-- Upper-case image of one character. -/
def upperChar (c : Char) : Text :=
  if c.toNat < 0x80 then [c.toUpper]
  else
    match upperExpansions.lookup c.toNat with
    | some codes => codes.map Char.ofNat
    | none => [Char.ofNat (CaseRun.apply upperRuns c.toNat)]

/-- The text in upper case. -/
def Text.upper (text : Text) : Text := text.flatMap upperChar

end TemplateAudit
