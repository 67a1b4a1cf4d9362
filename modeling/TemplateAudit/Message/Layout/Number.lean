import TemplateAudit.Message.Layout.Basic
import TemplateAudit.Number.Binary64

namespace TemplateAudit

namespace Layout

/-- A written number: the sign, the mark of the base, the digits that may be grouped, and what
    follows them. -/
structure Written where
  sign : Text
  base : Text
  digits : Text
  rest : Text
deriving DecidableEq, Repr

/-- Digits, the last first, in groups of `size` with `mark` between them, filled with zeros to a
    width of at least `least`. The group at the front has at least one digit. -/
def groups (size : Nat) (mark : Char) (least : Nat) (digits : Text) : Text :=
  let length := max 1 (min size (max digits.length least))
  let group := digits.take length
  let group := group ++ Text.repeated (length - group.length) '0'
  if _h : digits.length ≤ length ∧ least ≤ length then group
  else group ++ mark :: groups size mark (least - length - 1) (digits.drop length)
termination_by digits.length + least
decreasing_by
  simp only [List.length_drop]
  omega

/-- The size of the groups of digits. -/
def groupSize (layout : Layout) : Nat := if ("boxX" : Text).contains layout.type then 4 else 3

/-- The digits of a number, grouped if the layout says so and filled to a width of at least
    `least`. -/
def grouped (layout : Layout) (least : Nat) (digits : Text) : Text :=
  if digits.isEmpty then []
  else
    match layout.grouping with
    | none => Text.repeated (least - digits.length) '0' ++ digits
    | some mark => (groups layout.groupSize mark least digits.reverse).reverse

/-- A written number with its digits grouped, padded to the width. -/
def arrange (layout : Layout) (number : Written) : Text :=
  let width := layout.width.getD 0
  let around := number.sign.length + number.base.length + number.rest.length
  let least := if layout.fill = '0' && layout.align = '=' then width - around else 0
  let digits := layout.grouped least number.digits
  let (before, inside, after) := layout.padding (width - (around + digits.length))
  before ++ number.sign ++ number.base ++ inside ++ digits ++ number.rest ++ after

/-- The sign that the layout asks for; the numbers are not negative. -/
def signText (layout : Layout) : Text :=
  match layout.sign with
  | some sign => if sign = '-' then [] else [sign]
  | none => []

/-- The integer nearest to a number that double precision can hold. -/
def rounded (n : Nat) : Nat :=
  ((Binary64.ofQuotient false n 1).toInt?.getD 0).toNat

/-- The number rounded to so many leading digits, a tie going to the even digit, and the power of
    ten of the first digit. -/
def leadingDigits (count n : Nat) : Text × Nat :=
  let size := (Text.ofNat n).length
  if size ≤ count then (Text.ofNat n ++ Text.repeated (count - size) '0', size - 1)
  else
    let digits := Text.ofNat (Binary64.roundQuotient n (Nat.pow 10 (size - count)))
    (digits.take count, if digits.length = count then size - 1 else size)

/-- Decimal places after a point; the point stands alone only in the alternate form. -/
def places (alternate : Bool) (digits : Text) : Text :=
  if digits.isEmpty && !alternate then [] else '.' :: digits

/-- A power of ten, with two digits at least. -/
def power (mark : Char) (exponent : Nat) : Text :=
  let digits := Text.ofNat exponent
  mark :: '+' :: (Text.repeated (2 - digits.length) '0' ++ digits)

/-- A number with a first digit, `count` decimal places and a power of ten. -/
def scientific (alternate : Bool) (mark : Char) (count n : Nat) : Text × Text :=
  let (digits, exponent) := leadingDigits (count + 1) n
  (digits.take 1, places alternate (digits.drop 1) ++ power mark exponent)

/-- A number with `count` digits that count: with a power of ten if there is no room for it
    otherwise. Zeros at the end are dropped except in the alternate form. -/
def general (alternate : Bool) (mark : Char) (count n : Nat) : Text × Text :=
  let count := max 1 count
  let (digits, exponent) := leadingDigits count n
  let trim (digits : Text) : Text :=
    if alternate then digits else Text.dropWhileEnd (· == '0') digits
  if exponent < count then
    (digits.take (exponent + 1), places alternate (trim (digits.drop (exponent + 1))))
  else (digits.take 1, places alternate (trim (digits.drop 1)) ++ power mark exponent)

/-- The greatest number of decimal places. -/
def maxPlaces : Nat := 0x7FFFFFFF

/-- The digits and the rest of a number as a decimal fraction. -/
def fraction (layout : Layout) (n : Nat) : Text × Text :=
  let count := layout.precision.getD 6
  let fixed (n : Nat) (rest : Text) : Text × Text :=
    (Text.ofNat n, places layout.alternate (Text.repeated count '0') ++ rest)
  let n := rounded n
  match layout.type with
  | 'e' => scientific layout.alternate 'e' count n
  | 'E' => scientific layout.alternate 'E' count n
  | 'g' => general layout.alternate 'e' count n
  | 'G' => general layout.alternate 'E' count n
  | '%' => fixed (rounded (n * 100)) "%"
  | _ => fixed n []

/-- The mark and the digits of a number in the base that the layout asks for. -/
def based (layout : Layout) (n : Nat) : Text × Text :=
  let marked (mark : Text) : Text := if layout.alternate then mark else []
  match layout.type with
  | 'b' => (marked "0b", Nat.toDigits 2 n)
  | 'o' => (marked "0o", Nat.toDigits 8 n)
  | 'x' => (marked "0x", Nat.toDigits 16 n)
  | 'X' => (marked "0X", (Nat.toDigits 16 n).map Char.toUpper)
  | _ => ([], Text.ofNat n)

/-- The character with the given number. -/
def character (layout : Layout) (n : Nat) : Except TemplateError Written := do
  if layout.sign.isSome then throw .signWithCharacter
  if layout.alternate then throw .alternateWithCharacter
  if 0x110000 ≤ n then throw .noSuchCharacter
  return ⟨[], [], [], [Char.ofNat n]⟩

/-- A number of the given kind as the layout asks for it. An integer is written in base two, eight, ten or sixteen, as
    the character with that number, or as a decimal fraction, for which it is first rounded to double precision.
    Digits may stand in groups; zeros that fill the width stand in groups too. -/
def number (layout : Layout) (kind : Kind) (n : Nat) : Except TemplateError Written := do
  if ("eEfFgG%" : Text).contains layout.type then
    if maxPlaces < layout.precision.getD 0 then throw .precisionTooBig
    let (digits, rest) := layout.fraction n
    return ⟨layout.signText, [], digits, rest⟩
  if !("bcdoxXn" : Text).contains layout.type then throw (.unknownType layout.type kind)
  if layout.precision.isSome then throw .precisionNotAllowed
  if layout.zeroCoercion then throw .integerZeroCoercion
  if layout.type = 'c' then layout.character n
  else
    let (base, digits) := layout.based n
    return ⟨layout.signText, base, digits, []⟩

end Layout

end TemplateAudit
