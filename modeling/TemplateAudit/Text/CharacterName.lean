import TemplateAudit.Text.Basic
import TemplateAudit.Text.CharacterName.C
import TemplateAudit.Text.CharacterName.DToG
import TemplateAudit.Text.CharacterName.HToK
import TemplateAudit.Text.CharacterName.L
import TemplateAudit.Text.CharacterName.MToN
import TemplateAudit.Text.CharacterName.OToS
import TemplateAudit.Text.CharacterName.TToZ
import TemplateAudit.Text.CharacterName.UpToB
import TemplateAudit.Text.Ranges

namespace TemplateAudit

namespace CharacterName

/-- Whether a name is in a table; names are given with their last character first. A small letter
    stands for a number of characters to take away from the name before, and the first one after a
    name ends it. -/
def isListed (name current : Text) (ended : Bool) : Text → Bool
  | [] => !ended && current == name
  | c :: rest =>
    if c.isLower then
      (!ended && current == name) || isListed name (current.drop (c.toNat - 97)) true rest
    else isListed name (c :: current) false rest

/-- The table that would have a name. -/
def tableOf (name : Text) : List String :=
  match name with
  | [] => []
  | c :: _ =>
    if c < 'C' then namesAToB
    else if c = 'C' then namesC
    else if c < 'H' then namesDToG
    else if c < 'L' then namesHToK
    else if c = 'L' then namesL
    else if c < 'O' then namesMToN
    else if c < 'T' then namesOToS
    else namesTToZ

/-- The sounds with which a syllable may start. -/
def leadingSounds : List String :=
  ["G", "GG", "N", "D", "DD", "R", "M", "B", "BB", "S", "SS", "", "J", "JJ", "C", "K", "T", "P", "H"]

/-- The vowels of syllables. -/
def vowels : List String :=
  ["A", "AE", "YA", "YAE", "EO", "E", "YEO", "YE", "O", "WA", "WAE", "OE", "YO", "U", "WEO", "WE",
   "WI", "YU", "EU", "YI", "I"]

/-- The sounds with which a syllable may end. -/
def trailingSounds : List String :=
  ["", "G", "GG", "GS", "N", "NJ", "NH", "D", "L", "LG", "LM", "LB", "LS", "LT", "LP", "LH", "M", "B",
   "BS", "S", "SS", "NG", "J", "C", "K", "T", "P", "H"]

/-- What follows the longest of some sounds with which a text starts; none if it starts with none of
    them. -/
def afterLongest? (sounds : List String) (text : Text) : Option Text :=
  sounds.foldl (fun best sound =>
    match sound.toList.isPrefixOf? text, best with
    | some rest, some shorter => if rest.length < shorter.length then some rest else some shorter
    | some rest, none => some rest
    | none, best => best) none

/-- Whether a text is made of the sounds of a syllable. -/
def isSyllable (text : Text) : Bool :=
  match (afterLongest? leadingSounds text).bind (afterLongest? vowels) with
  | some rest => (afterLongest? trailingSounds rest).any List.isEmpty
  | none => false

/-- The code points of ideographs. -/
def ideographRanges : CodeRanges :=
  [(0x3400, 0x4DBF), (0x4E00, 0x9FFF), (0x20000, 0x2A6DF), (0x2A700, 0x2B738), (0x2B740, 0x2B81D),
   (0x2B820, 0x2CEA1), (0x2CEB0, 0x2EBE0), (0x30000, 0x3134A)]

/-- Whether a text is the code point of an ideograph, in four or five digits. -/
def isIdeographCode (text : Text) : Bool :=
  let value (c : Char) : Nat := if c.isDigit then c.toNat - 48 else c.toNat - 55
  (text.length == 4 || text.length == 5) && text.all (fun c => c.isDigit || ('A' ≤ c && c ≤ 'F'))
    && ideographRanges.contains (Char.ofNat (text.foldl (fun n c => 16 * n + value c) 0))

end CharacterName

/-- Whether a character has a given name. Small letters do as well, but not in the names of syllables and ideographs.
    Most names are in tables. The names of syllables are put together from the names of their sounds, and those of
    ideographs are made of their code points. -/
def isCharacterName (name : Text) : Bool :=
  match ("HANGUL SYLLABLE " : Text).isPrefixOf? name,
      ("CJK UNIFIED IDEOGRAPH-" : Text).isPrefixOf? name with
  | some sounds, _ => CharacterName.isSyllable sounds
  | none, some code => CharacterName.isIdeographCode code
  | none, none =>
    let name := name.map Char.toUpper
    CharacterName.isListed name.reverse [] true
      ((CharacterName.tableOf name).flatMap String.toList)

end TemplateAudit
