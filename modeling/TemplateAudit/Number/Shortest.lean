import TemplateAudit.Number.Binary64
import TemplateAudit.Text.Basic

namespace TemplateAudit

/-- `digits * 10 ^ exponent`. -/
structure Decimal where
  digits : Nat
  exponent : Int
deriving DecidableEq, Repr

/-- Numerator and denominator of a power of `base`. -/
def powerQuotient (base : Nat) : Int → Nat × Nat
  | .ofNat k => (Nat.pow base k, 1)
  | .negSucc k => (1, Nat.pow base (k + 1))

namespace Binary64

/-- The multiple of `10 ^ exponent` nearest to `mantissa * 2 ^ binary` among those that round to it.
    Lengths are measured in quarters of the last binary place. -/
def gridPoint? (mantissa : Nat) (binary exponent : Int) : Option Decimal :=
  let (unitNum, unitDen) := powerQuotient 2 (binary - 2)
  let (gridNum, gridDen) := powerQuotient 10 exponent
  let high := 4 * mantissa + 2
  let low :=
    if mantissa = leastNormal && binary > minExponent then 4 * mantissa - 1 else 4 * mantissa - 2
  let quarter := gridDen * unitNum
  let step := gridNum * unitDen
  let within (n : Nat) : Bool :=
    if mantissa % 2 = 0 then low * quarter ≤ n * step && n * step ≤ high * quarter
    else low * quarter < n * step && n * step < high * quarter
  let value := 4 * mantissa * quarter
  let floor := value / step
  let above := floor + 1
  let preferFloor := value - floor * step < above * step - value
    || (value - floor * step == above * step - value && floor % 2 == 0)
  match within floor, within above with
  | true, true => some ⟨if preferFloor then floor else above, exponent⟩
  | true, false => some ⟨floor, exponent⟩
  | false, true => some ⟨above, exponent⟩
  | false, false => none

/-- The decimal exponent of the leading digit of `mantissa * 2 ^ binary`. -/
def leadingExponent (mantissa : Nat) (binary : Int) : Int :=
  match binary with
  | .ofNat k => (Nat.toDigits 10 (mantissa * Nat.pow 2 k)).length - 1
  | .negSucc k =>
    -- Multiplying by a power of ten that exceeds the denominator leaves an integer part.
    (Nat.toDigits 10 (mantissa * Nat.pow 10 (k + 2) / Nat.pow 2 (k + 1))).length - 1 - (k + 2 : Nat)

/-- The shortest decimal that rounds to `mantissa * 2 ^ binary`. All reals that round to a double form an interval
    around it. Of the decimal grids with 1, 2, … 17 significant digits the first one with a point in that interval
    gives the digits, and of two such points the nearer one is taken. -/
def shortest (mantissa : Nat) (binary : Int) : Decimal :=
  let lead := leadingExponent mantissa binary
  let found := (List.range 17).findSome? fun (places : Nat) =>
    gridPoint? mantissa binary (lead - places)
  found.getD ⟨mantissa, binary⟩

end Binary64

/-- The digits of a decimal without trailing zeros, and the place of the decimal point counted from
    their start. -/
def Decimal.normalised (decimal : Decimal) : Text × Int :=
  let digits := Text.ofNat decimal.digits
  (Text.dropWhileEnd (· == '0') digits, digits.length + decimal.exponent)

/-- A double in decimal: positional from `0.0001` up to but excluding `1e+16`, with at least one
    place after the point, and otherwise with an exponent of at least two digits. -/
def Binary64.text : Binary64 → Text
  | .nan => "nan"
  | .infinity negative => (if negative then "-" else "") ++ "inf".toList
  | .finite negative mantissa exponent =>
    let sign : Text := if negative then "-" else ""
    if mantissa = 0 then sign ++ "0.0"
    else
      let (digits, point) := (shortest mantissa exponent).normalised
      if -4 < point && point ≤ 16 then
        if point ≤ 0 then sign ++ "0." ++ Text.repeated (-point).toNat '0' ++ digits
        else if digits.length ≤ point.toNat then
          sign ++ digits ++ Text.repeated (point.toNat - digits.length) '0' ++ ".0"
        else sign ++ digits.take point.toNat ++ "." ++ digits.drop point.toNat
      else
        let scale := point - 1
        let magnitude := Text.ofNat scale.natAbs
        let padded := if magnitude.length < 2 then '0' :: magnitude else magnitude
        let fraction : Text := if digits.length = 1 then [] else '.' :: digits.drop 1
        sign ++ digits.take 1 ++ fraction ++ "e" ++ (if scale < 0 then "-" else "+") ++ padded

end TemplateAudit
