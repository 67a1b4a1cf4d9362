namespace TemplateAudit

/-- A text is the list of its characters. Every offset, length and column of the library counts characters of such a
    list, so slicing a text at an offset is `List.drop` and the facts about offsets are facts about lists. -/
abbrev Text := List Char

instance : Coe String Text := ⟨String.toList⟩

namespace Text

/-- The characters from offset `start` up to but not including offset `stop`. -/
def slice (text : Text) (start stop : Nat) : Text :=
  (text.drop start).take (stop - start)

/-- The decimal digits of a natural number. -/
def ofNat (n : Nat) : Text := Nat.toDigits 10 n

/-- The decimal digits of an integer, after a minus sign if it is negative. -/
def ofInt : Int → Text
  | .ofNat n => ofNat n
  | .negSucc n => '-' :: ofNat (n + 1)

/-- The number that decimal digits spell, the first digit counting most. -/
def digitsToNat (digits : Text) : Nat :=
  digits.foldl (fun n c => 10 * n + (c.toNat - '0'.toNat)) 0

/-- `n` copies of a character. -/
def repeated (n : Nat) (c : Char) : Text := List.replicate n c

/-- The parts one after another with `separator` between neighbours. -/
def join (separator : Text) : List Text → Text
  | [] => []
  | [part] => part
  | part :: rest => part ++ separator ++ join separator rest

/-- The pieces between the places where `separator` stands; one piece if there is none. -/
def splitAll (separator : Char) : Text → List Text
  | [] => [[]]
  | c :: rest =>
    if c = separator then [] :: splitAll separator rest
    else
      match splitAll separator rest with
      | [] => [[c]]
      | piece :: pieces => (c :: piece) :: pieces

/-- The text without the characters at its end that satisfy `drop`. -/
def dropWhileEnd (drop : Char → Bool) (text : Text) : Text :=
  (text.reverse.dropWhile drop).reverse

/-- The text without the characters at either end that satisfy `drop`. -/
def trimWhile (drop : Char → Bool) (text : Text) : Text :=
  dropWhileEnd drop (text.dropWhile drop)

/-- Hexadecimal digits in lower case, padded with zeros to at least `width`. -/
def hex (width n : Nat) : Text :=
  let digits := Nat.toDigits 16 n
  repeated (width - digits.length) '0' ++ digits

/-- Lexicographic order by code point. -/
def le (a b : Text) : Bool := !decide (b < a)

theorem length_dropWhile_le (p : Char → Bool) (text : Text) :
    (text.dropWhile p).length ≤ text.length :=
  (List.dropWhile_sublist p).length_le

/-- What follows the first character that stops a search is shorter than the searched text. -/
theorem length_lt_of_dropWhile_eq_cons {p : Char → Bool} {text after : Text} {c : Char}
    (h : text.dropWhile p = c :: after) : after.length < text.length := by
  have hle := length_dropWhile_le p text
  rw [h, List.length_cons] at hle
  omega

end Text

end TemplateAudit
