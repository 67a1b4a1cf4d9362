import TemplateAudit.Log.Conversion
import TemplateAudit.Log.Record
import TemplateAudit.Text.Digit
import TemplateAudit.Text.Word

namespace TemplateAudit

/-- A character of a log line, or a conversion. -/
inductive LogPiece where
  | char (c : Char)
  | conversion (conversion : Conversion)
deriving DecidableEq, Repr

namespace LogFormat

/-- The pieces of a format of which `skip` characters belong to the piece before; none if the format
    is faulty. -/
def piecesFrom? (skip : Nat) : Text → Option (List LogPiece)
  | [] => some []
  | c :: rest =>
    match skip with
    | skip + 1 => piecesFrom? skip rest
    | 0 =>
      if c ≠ '%' then (piecesFrom? 0 rest).map (.char c :: ·)
      else if rest.head? = some '%' then (piecesFrom? 1 rest).map (.char c :: ·)
      else
        match Conversion.read? rest with
        | none => none
        | some (conversion, after) =>
          (piecesFrom? (rest.length - after.length) rest).map (.conversion conversion :: ·)

/-- The pieces of a format; none if it is faulty. A format is literal text with conversions such as `%(message)s`, and
    a percent sign is written twice. A format is refused if nothing in it looks like a conversion with a key. One that
    passes may still be faulty; then no line can be made. -/
def pieces? (format : Text) : Option (List LogPiece) := piecesFrom? 0 format

/-- Letters that look like the end of a conversion, in either case. -/
def isFinalLetter (c : Char) : Bool :=
  ("diouxefgcrsaDIOUXEFGCRSA%İıſ" : Text).contains c

/-- A text without the star or the digits at its start. -/
def dropExtent : Text → Option Text
  | '*' :: rest => some rest
  | c :: rest => if isDecimalDigit c then some (rest.dropWhile isDecimalDigit) else none
  | [] => none

/-- Whether a text looks like the end of a conversion, after its key. -/
def looksLikeEnd (text : Text) : Bool :=
  let rest := text.dropWhile Conversion.isFlag
  let rest := (dropExtent rest).getD rest
  let rest := match rest with
    | '.' :: places => (dropExtent places).getD rest
    | _ => rest
  (rest.head?.map isFinalLetter).getD false

/-- Whether what looks like a conversion stands at the start of a text: its key must be a word. -/
def looksLikeConversion : Text → Bool
  | '%' :: '(' :: rest =>
    match rest.dropWhile isWordChar with
    | ')' :: after => (rest.head?.map isWordChar).getD false && looksLikeEnd after
    | _ => false
  | _ => false

/-- Whether what looks like a conversion occurs in a format; one without would show nothing of the
    record. -/
def isValid : Text → Bool
  | [] => false
  | c :: rest => looksLikeConversion (c :: rest) || isValid rest

/-- The complaint about a format without conversions. -/
def invalidMessage (format : Text) : Text := "Invalid format '" ++ format ++ "' for '%' style"

/-- The format that an empty one stands for. -/
def messageOnly : Text := "%(message)s"

/-- The format of log files unless another one is asked for. -/
def standard : Text := "%(asctime)s - %(name)s - %(levelname)s - %(message)s"

/-- The values that a format may name, of a record that a logger wrote at a given time. -/
def values (time logger : Text) (record : LogRecord) : List (Text × LogValue) :=
  [("asctime", .text time), ("name", .text logger), ("levelname", .text record.level.label),
   ("levelno", .number record.level), ("message", .text record.message),
   ("msg", .text record.message), ("args", .written "()"), ("exc_info", .written "None"),
   ("exc_text", .written "None"), ("stack_info", .written "None"),
   ("threadName", .text "MainThread"), ("processName", .text "MainProcess")]

/-- What a piece shows; none if it is a conversion without a key or with an unknown one, or one that
    does not fit its value. -/
def showPiece? (values : List (Text × LogValue)) : LogPiece → Option Text
  | .char c => some [c]
  | .conversion conversion => do
    let key ← conversion.key
    let value ← values.lookup key
    conversion.show? value

/-- The line of a record; none if the format is faulty. -/
def line? (format time logger : Text) (record : LogRecord) : Option Text := do
  let pieces ← pieces? format
  let shown ← pieces.mapM (showPiece? (values time logger record))
  return shown.flatten

end LogFormat

end TemplateAudit
