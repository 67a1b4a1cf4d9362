namespace TemplateAudit

/-- A double: not a number, an infinity, or plus or minus `mantissa * 2 ^ exponent`. A finite number is a sign, a
    mantissa below `2 ^ 53` and a power of two, so every question about it is one about natural numbers. Decimal
    numerals are rounded to the nearest double, a tie going to the even mantissa. -/
inductive Binary64 where
  | nan
  | infinity (negative : Bool)
  | finite (negative : Bool) (mantissa : Nat) (exponent : Int)
deriving DecidableEq, Repr

namespace Binary64

/-- The least exponent of a finite number. -/
def minExponent : Int := -1074

/-- The greatest exponent of a finite number. -/
def maxExponent : Int := 971

/-- The least mantissa of 53 binary digits. -/
def leastNormal : Nat := Nat.pow 2 52

/-- The quotient of two natural numbers rounded to the nearest integer, a tie going to the even
    one. -/
def roundQuotient (num den : Nat) : Nat :=
  let quotient := num / den
  let twice := 2 * (num % den)
  if twice < den || (twice == den && quotient % 2 == 0) then quotient else quotient + 1

/-- `num / den` divided by `2 ^ exponent` and rounded to the nearest integer. -/
def scaledQuotient (num den : Nat) (exponent : Int) : Nat :=
  match exponent with
  | .ofNat k => roundQuotient num (den * Nat.pow 2 k)
  | .negSucc k => roundQuotient (num * Nat.pow 2 (k + 1)) den

/-- The double nearest to `num / den`. -/
def ofQuotient (negative : Bool) (num den : Nat) : Binary64 :=
  if num = 0 then .finite negative 0 minExponent
  else
    let estimate : Int := max (num.log2 - den.log2 - 53) minExponent
    let exponent := if scaledQuotient num den estimate < 2 * leastNormal then estimate else estimate + 1
    let mantissa := scaledQuotient num den exponent
    let (mantissa, exponent) :=
      if mantissa = 2 * leastNormal then (leastNormal, exponent + 1) else (mantissa, exponent)
    if exponent > maxExponent then .infinity negative else .finite negative mantissa exponent

/-- The double nearest to `digits * 10 ^ exponent`. Numerals far outside the range of finite numbers
    are decided by their size alone, so an exponent of any length costs nothing. -/
def ofDecimal (negative : Bool) (digits : Nat) (exponent : Int) : Binary64 :=
  if digits = 0 then .finite negative 0 minExponent
  else
    let size : Int := (Nat.toDigits 10 digits).length + exponent
    if size > 400 then .infinity negative
    else if size < -400 then .finite negative 0 minExponent
    else
      match exponent with
      | .ofNat k => ofQuotient negative (digits * Nat.pow 10 k) 1
      | .negSucc k => ofQuotient negative digits (Nat.pow 10 (k + 1))

/-- The integer that a number without fraction is equal to. -/
def toInt? : Binary64 → Option Int
  | .nan | .infinity _ => none
  | .finite negative mantissa exponent =>
    let magnitude : Option Nat :=
      match exponent with
      | .ofNat k => some (mantissa * Nat.pow 2 k)
      | .negSucc k =>
        let unit := Nat.pow 2 (k + 1)
        if mantissa % unit = 0 then some (mantissa / unit) else none
    magnitude.map fun n => if negative then -(n : Int) else n

end Binary64

end TemplateAudit
