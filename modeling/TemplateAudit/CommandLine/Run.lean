import TemplateAudit.Audit.Basic
import TemplateAudit.CommandLine.Options
import TemplateAudit.Rule.Builtin
import TemplateAudit.Rule.Selection

namespace TemplateAudit

namespace CommandLine

/-- Nothing was found. -/
def statusClean : Nat := 0

/-- Something was found. -/
def statusFound : Nat := 1

/-- The run could not be carried out. -/
def statusFailed : Nat := 2

/-- What a run leaves behind. -/
structure RunResult where
  status : Except Crash Nat
  /-- What was printed on the console. -/
  output : Text := []
  standardOutput : Text := []
  standardError : Text := []
  /-- The records that passed the level of the run. -/
  log : List LogRecord := []
  report : Report := .empty

/-- Why an audit cannot begin. -/
inductive PreparationError where
  | load (error : LoadError)
  | unnamedRule
  | rules (error : UnknownRules)

/-- The settings and rules of a run. -/
def prepare (files : FileSystem) (options : Options) :
    Except PreparationError (Settings × List Rule) := do
  let settings ← match options.config with
    | some path => (Settings.load files path).mapError .load
    | none => pure {}
  let some disabled := options.disabled.mapM id | throw .unnamedRule
  let rules ← (Rule.select (settings.disabledRules ++ disabled) Rule.builtin).mapError .rules
  return (settings, rules)

/-- A complaint on the console. -/
def complaintLine (complaint : Text) : Except Crash Text :=
  (Console.taggedLine ("[red]✗[/red] " ++ complaint)).mapError fun error =>
    .print (.styleTag error)

/-- The complaint about an audit that ended early. -/
def stopLine : AuditStop → Except Crash Text
  | .missing path => complaintLine ("Path not found: " ++ StyleTag.escape path.text)
  | .unreadable path error =>
    complaintLine ("Could not read " ++ StyleTag.escape path.text ++ ": "
      ++ StyleTag.escape error.message)
  | .crash crash => .error crash

/-- The complaint about an audit that cannot begin. -/
def preparationLine : PreparationError → Except Crash Text
  | .load (.toolsNotTable tools) => .error (.load (.toolsNotTable tools))
  | .load (.document ⟨.nestedTooDeeply, remaining⟩ text) =>
    .error (.load (.document ⟨.nestedTooDeeply, remaining⟩ text))
  | .load (.settings error) =>
    if error.fault.nestedTooDeeply then .error (.load (.settings error))
    else complaintLine (StyleTag.escape error.message)
  | .load error => complaintLine (StyleTag.escape error.message)
  | .unnamedRule => .error .unnamedRule
  | .rules error => complaintLine (StyleTag.escape error.message)

/-- The last line of a text report. -/
def summary (report : Report) : Text :=
  Text.ofNat report.entries.length ++ " deprecation(s) found in " ++ Text.ofInt report.files
    ++ " file(s)."

/-- What ends the output of a complete audit. -/
def closing (format : ReportFormat) (report : Report) : Except Crash Text :=
  match format with
  | .json => .ok (Console.untaggedLine report.encode)
  | .text => (Console.taggedLine (summary report)).mapError fun error => .print (.styleTag error)

/-- The exit status of a complete audit. -/
def statusOf (report : Report) : Nat := if report.hasEntries then statusFound else statusClean

/-- A run that ends with a last piece of output, or without one if that cannot be made. -/
def ending (findings : Findings) (status : Nat) (last : Except Crash Text) : RunResult :=
  match last with
  | .ok line =>
    { status := .ok status, output := findings.output ++ line, log := findings.log
      report := findings.report }
  | .error crash =>
    { status := .error crash, output := findings.output, log := findings.log
      report := findings.report }

/-- The level of a run. -/
def logLevel (options : Options) (settings : Settings) : LogLevel :=
  if options.verbose then .debug else settings.logLevel

/-- Audit the paths of a run and report. -/
def audit (files : FileSystem) (options : Options) (settings : Settings) (rules : List Rule) :
    RunResult :=
  let format := options.format.getD settings.format
  let audited := files.auditPaths ⟨rules, format, options.showSource⟩ options.paths
  let log := audited.findings.log.filter fun record =>
    (logLevel options settings).admits record.level
  let findings := { audited.findings with log }
  match audited.stop with
  | some stop => ending findings statusFailed (stopLine stop)
  | none => ending findings (statusOf findings.report) (closing format findings.report)

/-- The line that lists a rule. -/
def ruleLine (rule : Rule) : Except TemplateError Text :=
  (rule.message.render .plain).map fun message =>
    Console.untaggedLine (rule.name ++ ": " ++ message)

/-- List rules, up to the first whose message cannot be rendered. -/
def listRules : List Rule → RunResult
  | [] => { status := .ok statusClean }
  | rule :: rest =>
    match ruleLine rule with
    | .error error => { status := .error (.entry (.template error)) }
    | .ok line =>
      let later := listRules rest
      { later with output := line ++ later.output }

/-- Do what options ask for. -/
def runOptions (files : FileSystem) (options : Options) : RunResult :=
  if options.listRules then listRules Rule.builtin
  else if options.paths.isEmpty then { status := .ok statusFailed, standardError := usage }
  else
    match prepare files options with
    | .error error => ending .empty statusFailed (preparationLine error)
    | .ok (settings, rules) => audit files options settings rules

/-- Run the program. -/
def run (files : FileSystem) (arguments : List Text) : RunResult :=
  match Options.ofArguments arguments with
  | .error .help => { status := .ok statusClean, standardOutput := help }
  | .error (.misuse error) => { status := .ok statusFailed, standardError := error.page }
  | .ok options => runOptions files options

end CommandLine

end TemplateAudit
