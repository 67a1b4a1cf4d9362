import TemplateAudit.CommandLine.Usage
import TemplateAudit.Files.Path
import TemplateAudit.Settings.Basic
import TemplateAudit.Text.Digit

namespace TemplateAudit

namespace CommandLine

/-- An argument by itself. -/
inductive Argument where
  | plain (text : Text)
  /-- The first double dash. -/
  | separator
  | option (name : OptionName) (value : Option Text)
  | unknown (text : Text)
deriving DecidableEq, Repr

/-- The text without the line feed that may end it. -/
def withoutLineEnd (text : Text) : Text :=
  if text.getLast? = some '\n' then text.dropLast else text

/-- Whether a text reads as a negative number: digits, or digits around a point of which those after
    it are required. A line feed may end it. -/
def isNegativeNumber (text : Text) : Bool :=
  match withoutLineEnd text with
  | '-' :: digits =>
    match digits.dropWhile isDecimalDigit with
    | [] => !digits.isEmpty
    | '.' :: fraction => !fraction.isEmpty && fraction.all isDecimalDigit
    | _ => false
  | _ => false

/-- What stands before the first equals sign, and what stands after it if there is one. -/
def splitValue (text : Text) : Text × Option Text :=
  match text.dropWhile (· != '=') with
  | _ :: value => (text.takeWhile (· != '='), some value)
  | [] => (text, none)

/-- What follows the short form of the help option in the same argument: its letter again, any
    number of times, asks for help once more. All else is a value, which help does not take. -/
def shortValue? : Text → Option Text
  | ['h'] => none
  | 'h' :: rest => shortValue? rest
  | value => some value

/-- Classify an argument that starts with a dash and is no option as a whole. -/
def Argument.unlisted (text : Text) : Argument :=
  if isNegativeNumber text || text.contains ' ' then .plain text else .unknown text

/-- Classify an argument that starts with two dashes: an option or an unambiguous beginning of one,
    with or without a value. -/
def Argument.ofLong (text : Text) : Except UsageError Argument :=
  let (name, value) := splitValue text
  match OptionName.all.find? (·.spelling == name) with
  | some found => .ok (.option found value)
  | none =>
    match OptionName.all.filter fun candidate => name.isPrefixOf candidate.spelling with
    | [] => .ok (unlisted text)
    | [found] => .ok (.option found value)
    | candidates => .error (.ambiguous text candidates)

/-- Classify an argument before any double dash. -/
def Argument.ofText (text : Text) : Except UsageError Argument :=
  match text with
  | ['-'] => .ok (.plain text)
  | '-' :: '-' :: _ => Argument.ofLong text
  | ['-', 'h'] => .ok (.option .help none)
  | '-' :: 'h' :: '=' :: value => .ok (.option .help (shortValue? value))
  | '-' :: 'h' :: rest => .ok (.option .help (shortValue? rest))
  | '-' :: _ => .ok (Argument.unlisted text)
  | _ => .ok (.plain text)

/-- Classify arguments in order. -/
def classify : List Text → Except UsageError (List Argument)
  | [] => .ok []
  | text :: rest =>
    if text = ['-', '-'] then .ok (.separator :: rest.map .plain)
    else do
      let argument ← Argument.ofText text
      let later ← classify rest
      return argument :: later

/-- What is asked of the program. -/
structure Options where
  paths : List Path := []
  config : Option Path := none
  /-- Names of rules; one that is missing was given as a bare double dash. -/
  disabled : List (Option Text) := []
  format : Option ReportFormat := none
  showSource : Bool := false
  verbose : Bool := false
  listRules : Bool := false
deriving DecidableEq, Repr

/-- Why arguments give no options. -/
inductive Interruption where
  | help
  | misuse (error : UsageError)
deriving DecidableEq, Repr

namespace Options

/-- The value that a text attached to an option stands for: a bare double dash is none. -/
def attachedValue? (text : Text) : Option Text :=
  if text = ['-', '-'] then none else some text

/-- The options with the value of an option set, or taken back if the value is none. -/
def withValue (options : Options) (name : OptionName) (text : Text) :
    Except Interruption Options :=
  match name, attachedValue? text with
  | .config, value => .ok { options with config := value.map Path.ofText }
  | .disable, value => .ok { options with disabled := options.disabled ++ [value] }
  | .format, none => .ok { options with format := none }
  | .format, some value =>
    match ReportFormat.ofName? value with
    | some format => .ok { options with format := some format }
    | none => .error (.misuse (.invalidFormat value))
  | .help, _ | .showSource, _ | .verbose, _ | .listRules, _ =>
    .error (.misuse (.valueIgnored name text))

/-- The options with an option set that needs no value. -/
def withFlag (options : Options) (name : OptionName) : Except Interruption Options :=
  match name with
  | .help => .error .help
  | .showSource => .ok { options with showSource := true }
  | .verbose => .ok { options with verbose := true }
  | .listRules => .ok { options with listRules := true }
  | .config | .disable | .format => .error (.misuse (.valueMissing name))

/-- The options with one more path. -/
def withPath (options : Options) (path : Text) : Options :=
  { options with paths := options.paths ++ [Path.ofText path] }

end Options

/-- Where the run of paths stands. -/
inductive PathRun where
  | ahead
  | here
  | over
deriving DecidableEq, Repr

/-- The run of paths after an argument that is none. -/
def PathRun.interrupted : PathRun → PathRun
  | .ahead => .ahead
  | .here | .over => .over

/-- What has been read of the arguments. -/
structure Reading where
  options : Options := {}
  run : PathRun := .ahead
  unrecognized : List Text := []

namespace Reading

/-- The reading with other options, after an option. -/
def afterOption (reading : Reading) (options : Options) : Reading :=
  ⟨options, reading.run.interrupted, reading.unrecognized⟩

/-- The reading after a plain argument. -/
def afterPlain (reading : Reading) (text : Text) : Reading :=
  match reading.run with
  | .over => { reading with unrecognized := reading.unrecognized ++ [text] }
  | _ => ⟨reading.options.withPath text, .here, reading.unrecognized⟩

/-- The reading after a double dash, which is itself no path. -/
def afterSeparator (reading : Reading) : Reading :=
  match reading.run with
  | .over => { reading with unrecognized := reading.unrecognized ++ [['-', '-']] }
  | _ => { reading with run := .here }

/-- The reading after an unknown option. -/
def afterUnknown (reading : Reading) (text : Text) : Reading :=
  ⟨reading.options, reading.run.interrupted, reading.unrecognized ++ [text]⟩

end Reading

/-- Let classified arguments act from left to right. An option that needs a value and has none
    attached takes the next argument if that one is plain. -/
def act (reading : Reading) : List Argument → Except Interruption Reading
  | [] => .ok reading
  | .plain text :: rest => act (reading.afterPlain text) rest
  | .separator :: rest => act reading.afterSeparator rest
  | .unknown text :: rest => act (reading.afterUnknown text) rest
  | .option name (some value) :: rest => do
    let options ← reading.options.withValue name value
    act (reading.afterOption options) rest
  | .option name none :: rest =>
    if name.takesValue then
      match rest with
      | .plain value :: rest => do
        let options ← reading.options.withValue name value
        act (reading.afterOption options) rest
      | _ => .error (.misuse (.valueMissing name))
    else do
      let options ← reading.options.withFlag name
      act (reading.afterOption options) rest

/-- The options that arguments ask for. Every argument is first classified by itself: as an option with or without a
    value attached to it, as an option nobody knows, or as plain. Then the options act from left to right. The first
    unbroken run of plain arguments gives the paths; plain arguments after it are not recognized, and neither are
    unknown options. After a double dash every argument is plain. -/
def Options.ofArguments (arguments : List Text) : Except Interruption Options := do
  let classified ← (classify arguments).mapError .misuse
  let reading ← act {} classified
  if reading.unrecognized.isEmpty then return reading.options
  else throw (.misuse (.unrecognized reading.unrecognized))

end CommandLine

end TemplateAudit
