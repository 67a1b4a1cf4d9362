import TemplateAudit.Text.Basic

namespace TemplateAudit

/-- A negative offset has no position. -/
structure NegativeOffset where
  offset : Int
deriving DecidableEq, Repr

/-- What is reported for a negative offset. -/
def NegativeOffset.message (error : NegativeOffset) : Text :=
  "Offset must be >= 0, got " ++ Text.ofInt error.offset

/-- A line and a column. -/
structure Position where
  line : Nat
  column : Nat
deriving DecidableEq, Repr

namespace Source

/-- The offset itself, or the end of the source if it lies past that. -/
def clamp (source : Text) (offset : Int) : Except NegativeOffset Nat :=
  if offset < 0 then .error ⟨offset⟩ else .ok (min offset.toNat source.length)

/-- The characters between the last line feed of `before` and its end. -/
def lineHead (before : Text) : Text :=
  (before.reverse.takeWhile (· != '\n')).reverse

/-- The position of an offset that lies in the source or at its end. -/
def positionAt (source : Text) (offset : Nat) : Position :=
  let before := source.take offset
  ⟨before.count '\n' + 1, (lineHead before).length + 1⟩

/-- The position of an offset; one past the end counts as the end. -/
def position (source : Text) (offset : Int) : Except NegativeOffset Position :=
  (clamp source offset).map (positionAt source)

/-- The line that contains an offset, without the carriage returns at its end. -/
def lineAt (source : Text) (offset : Nat) : Text :=
  Text.dropWhileEnd (· == '\r')
    (lineHead (source.take offset) ++ (source.drop offset).takeWhile (· != '\n'))

/-- The line that contains an offset; one past the end counts as the end. -/
def line (source : Text) (offset : Int) : Except NegativeOffset Text :=
  (clamp source offset).map (lineAt source)

end Source

end TemplateAudit
