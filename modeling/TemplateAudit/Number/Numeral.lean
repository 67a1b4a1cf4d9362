import TemplateAudit.Text.Basic

namespace TemplateAudit

namespace Numeral

/-- How many digits a decimal numeral may have. The length of decimal numerals is limited, so that no document can ask
    for work that grows with the square of its size. The limit holds for numerals that are read and for those that are
    written; numerals in other bases have none. -/
def maxDigits : Nat := 4300

/-- Whether the decimal numeral of an integer would be too long. -/
def isTooLong (n : Int) : Bool := decide (Nat.pow 10 maxDigits ≤ n.natAbs)

/-- The complaint about a numeral that is too long to be read. -/
def unreadable (digits : Nat) : Text :=
  "Exceeds the limit (4300 digits) for integer string conversion: value has "
    ++ Text.ofNat digits ++ " digits; use sys.set_int_max_str_digits() to increase the limit"

/-- The complaint about an integer whose numeral is too long to be written. -/
def unwritable : Text :=
  ("Exceeds the limit (4300 digits) for integer string conversion; " : Text)
    ++ "use sys.set_int_max_str_digits() to increase the limit"

end Numeral

end TemplateAudit
