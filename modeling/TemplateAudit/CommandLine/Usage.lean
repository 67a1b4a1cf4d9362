import TemplateAudit.Text.Quoted

namespace TemplateAudit

namespace CommandLine

/-- The options of the command line. -/
inductive OptionName where
  | help
  | config
  | disable
  | format
  | showSource
  | verbose
  | listRules
deriving DecidableEq, Repr

namespace OptionName

/-- All options in the order in which they are listed. -/
def all : List OptionName := [help, config, disable, format, showSource, verbose, listRules]

/-- How an option is written. -/
def spelling : OptionName → Text
  | help => "--help"
  | config => "--config"
  | disable => "--disable"
  | format => "--format"
  | showSource => "--show-source"
  | verbose => "--verbose"
  | listRules => "--list-rules"

/-- How an option is named in complaints: with its short form if it has one. -/
def title : OptionName → Text
  | help => "-h/--help"
  | option => option.spelling

/-- Whether an option needs a value. -/
def takesValue : OptionName → Bool
  | config | disable | format => true
  | help | showSource | verbose | listRules => false

end OptionName

/-- What is wrong with arguments. -/
inductive UsageError where
  | ambiguous (argument : Text) (candidates : List OptionName)
  | valueMissing (option : OptionName)
  | valueIgnored (option : OptionName) (value : Text)
  | invalidFormat (value : Text)
  | unrecognized (arguments : List Text)
deriving DecidableEq, Repr

/-- The complaint about an option. -/
def OptionName.complain (option : OptionName) (complaint : Text) : Text :=
  "argument " ++ option.title ++ ": " ++ complaint

/-- The complaint about arguments. -/
def UsageError.message : UsageError → Text
  | .ambiguous argument candidates =>
    "ambiguous option: " ++ argument ++ " could match "
      ++ Text.join ", " (candidates.map OptionName.spelling)
  | .valueMissing option => option.complain "expected one argument"
  | .valueIgnored option value => option.complain ("ignored explicit argument " ++ value.quoted)
  | .invalidFormat value =>
    OptionName.format.complain
      ("invalid choice: " ++ value.quoted ++ " (choose from 'text', 'json')")
  | .unrecognized arguments => "unrecognized arguments: " ++ Text.join " " arguments

/-- The name of the program. -/
def programName : Text := "ng-template-linter"

/-- How the program is called. -/
def usage : Text :=
  ("usage: ng-template-linter [-h] [--config CONFIG] [--disable RULE]\n" : Text)
    ++ "                          [--format \x7btext,json\x7d] [--show-source] [--verbose]\n"
    ++ "                          [--list-rules]\n"
    ++ "                          [paths ...]\n"

/-- The page that explains the program. -/
def help : Text :=
  usage
    ++ "\n"
    ++ "Report deprecated Angular Material API usages in Angular templates and\n"
    ++ "component files.\n"
    ++ "\n"
    ++ "positional arguments:\n"
    ++ "  paths                 Template files, component files (*.ts) or directories\n"
    ++ "                        to scan (directories are searched for *.html).\n"
    ++ "\n"
    ++ "options:\n"
    ++ "  -h, --help            show this help message and exit\n"
    ++ "  --config CONFIG       TOML config file (a pyproject.toml or a standalone\n"
    ++ "                        file).\n"
    ++ "  --disable RULE        Disable a rule by name. Can be given more than once.\n"
    ++ "  --format \x7btext,json\x7d  Output format (overrides the config file).\n"
    ++ "  --show-source         Show the offending source line under each text\n"
    ++ "                        diagnostic.\n"
    ++ "  --verbose             Log debug output to stderr.\n"
    ++ "  --list-rules          Print the available rules and exit.\n"

/-- What is said to a call with wrong arguments. -/
def UsageError.page (error : UsageError) : Text :=
  usage ++ programName ++ ": error: " ++ error.message ++ "\n"

end CommandLine

end TemplateAudit
