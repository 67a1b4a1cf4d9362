import TemplateAudit.Diagnostic.Basic
import TemplateAudit.Log.Record

namespace TemplateAudit

/-- The record of a rule that broke down. -/
def Rule.failureRecord (rule : Rule) : LogRecord :=
  ⟨.error, "Rule " ++ rule.name ++ " failed; skipping it for this fragment"⟩

/-- Run every rule over a text. Diagnostics come in the order of the rules and, within a rule, in the order of its
    finder. A finder that breaks down is logged and skipped; one that refuses its arguments ends the run, because then
    the rule itself is at fault. -/
def findDeprecations (text : Text) : List Rule → Logged (Except ArgumentError (List Diagnostic))
  | [] => ⟨[], .ok []⟩
  | rule :: rest =>
    match rule.find text with
    | .found offsets =>
      let later := findDeprecations text rest
      ⟨later.log, later.value.map (offsets.map rule.diagnose ++ ·)⟩
    | .refused error => ⟨[], .error error⟩
    | .failed =>
      let later := findDeprecations text rest
      ⟨rule.failureRecord :: later.log, later.value⟩

/-- The record of a fragment with matches. -/
def Fragment.matchesRecord (fragment : Fragment) (count : Nat) : LogRecord :=
  let name := match fragment.path with
    | some (c :: path) => c :: path
    | _ => "<unnamed>"
  ⟨.debug, Text.ofNat count ++ " deprecation(s) in " ++ fragment.kind.label ++ " fragment " ++ name⟩

/-- Run every rule over a fragment and place the diagnostics in the enclosing buffer. -/
def scan (fragment : Fragment) (rules : List Rule) :
    Logged (Except ArgumentError (List LocatedDiagnostic)) :=
  let found := findDeprecations fragment.text rules
  match found.value with
  | .error error => ⟨found.log, .error error⟩
  | .ok diagnostics =>
    let located := diagnostics.map (·.locate fragment)
    let records := if located.isEmpty then [] else [fragment.matchesRecord located.length]
    ⟨found.log ++ records, .ok located⟩

/-- What a sink is told about one diagnostic. -/
structure ScanNotice where
  start : Int
  stop : Int
  message : Text
deriving DecidableEq, Repr

/-- Why a scan that renders its diagnostics ends early. -/
inductive ScanError where
  | argument (error : ArgumentError)
  | template (error : TemplateError)
deriving DecidableEq, Repr

/-- The notices of diagnostics in order, up to the first message that cannot be rendered, and that
    problem if there is one. -/
def notices (style : SlotStyle) : List LocatedDiagnostic → List ScanNotice × Option TemplateError
  | [] => ([], none)
  | diagnostic :: rest =>
    match diagnostic.message.render style with
    | .error error => ([], some error)
    | .ok message =>
      let (later, error) := notices style rest
      (⟨diagnostic.start, diagnostic.stop, message⟩ :: later, error)

/-- What has reached the sink, and how the scan ended: with the number of notices or early. -/
structure ScanDelivery where
  delivered : List ScanNotice
  outcome : Except ScanError Nat

/-- Scan a fragment and hand each diagnostic to a sink. -/
def scanInto (fragment : Fragment) (rules : List Rule) (style : SlotStyle) :
    Logged ScanDelivery :=
  let scanned := scan fragment rules
  match scanned.value with
  | .error error => ⟨scanned.log, ⟨[], .error (.argument error)⟩⟩
  | .ok located =>
    match notices style located with
    | (delivered, some error) => ⟨scanned.log, ⟨delivered, .error (.template error)⟩⟩
    | (delivered, none) => ⟨scanned.log, ⟨delivered, .ok located.length⟩⟩

end TemplateAudit
