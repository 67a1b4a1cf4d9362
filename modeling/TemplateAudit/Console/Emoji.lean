import TemplateAudit.Console.Emoji.FToL
import TemplateAudit.Console.Emoji.MToO
import TemplateAudit.Console.Emoji.PToS
import TemplateAudit.Console.Emoji.TToZ
import TemplateAudit.Console.Emoji.UpToE
import TemplateAudit.Text.Blank
import TemplateAudit.Text.Case

namespace TemplateAudit

namespace Emoji

/-- The emoji whose names start like a given name. -/
def tableFor (name : Text) : List (String × List Nat) :=
  match name with
  | 'a' :: _ => emojiA
  | 'b' :: _ => emojiB
  | 'c' :: _ => emojiC
  | 'd' :: _ => emojiD
  | 'e' :: _ => emojiE
  | 'f' :: _ => emojiF
  | 'g' :: _ => emojiG
  | 'h' :: _ => emojiH
  | 'i' :: _ => emojiI
  | 'j' :: _ => emojiJ
  | 'k' :: _ => emojiK
  | 'l' :: _ => emojiL
  | 'm' :: _ => emojiM
  | 'n' :: _ => emojiN
  | 'o' :: _ => emojiO
  | 'p' :: _ => emojiP
  | 'q' :: _ => emojiQ
  | 'r' :: _ => emojiR
  | 's' :: _ => emojiS
  | 't' :: _ => emojiT
  | 'u' :: _ => emojiU
  | 'v' :: _ => emojiV
  | 'w' :: _ => emojiW
  | 'x' :: _ => emojiX
  | 'y' :: _ => emojiY
  | 'z' :: _ => emojiZ
  | _ => emojiDigits

/-- The emoji with a given name. -/
def named? (name : Text) : Option Text :=
  ((tableFor name).find? fun entry => entry.1.toList == name).map fun entry => entry.2.map Char.ofNat

/-- Take an ending off a text. -/
def withoutEnding? (ending text : Text) : Option Text :=
  if ending.isSuffixOf text then some (text.take (text.length - ending.length)) else none

/-- The name in a code, and the selector for the form it asks for. -/
def splitForm (code : Text) : Text × Text :=
  match withoutEnding? "-emoji" code with
  | some name => (name, [Char.ofNat 0xFE0F])
  | none =>
    match withoutEnding? "-text" code with
    | some name => (name, [Char.ofNat 0xFE0E])
    | none => (code, [])

/-- The emoji for the text between two colons. -/
def ofCode? (code : Text) : Option Text :=
  let (name, selector) := splitForm code
  (named? name.lower).map (· ++ selector)

/-- Replace the emoji codes of a text, from left to right. A code lies between two colons without a
    blank; the colons of an unknown code are used up all the same. -/
def replaceCodes (text : Text) : Text :=
  match text with
  | [] => []
  | c :: rest =>
    if c = ':' then
      match _h : rest.dropWhile fun c => c != ':' && !isBlank c with
      | [] => c :: replaceCodes rest
      | d :: after =>
        if d = ':' then
          let code := rest.takeWhile fun c => c != ':' && !isBlank c
          (ofCode? code).getD (':' :: (code ++ [':'])) ++ replaceCodes after
        else c :: replaceCodes rest
    else c :: replaceCodes rest
termination_by text.length
decreasing_by
  · simp
  · have := Text.length_lt_of_dropWhile_eq_cons (by assumption)
    simp only [List.length_cons]
    omega
  · simp
  · simp

end Emoji

end TemplateAudit
