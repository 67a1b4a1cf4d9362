import TemplateAudit.Files.Tree
import TemplateAudit.Log.Format

namespace TemplateAudit

/-- What the logger is to do. An empty file name asks for no file. -/
structure LogSettings where
  level : LogLevel := .warning
  file : Text := []
  fileLevel : LogLevel := .debug
  format : Text := LogFormat.standard
deriving DecidableEq, Repr

/-- The level of the logger: the lower one if there is a file. -/
def LogSettings.loggerLevel (settings : LogSettings) : LogLevel :=
  if settings.file.isEmpty then settings.level else min settings.level settings.fileLevel

/-- The format of the file's lines. -/
def LogSettings.lineFormat (settings : LogSettings) : Text :=
  if settings.format.isEmpty then LogFormat.messageOnly else settings.format

/-- Where records go. -/
inductive LogHandler where
  | console (level : LogLevel)
  | file (level : LogLevel) (path : Path) (format : Text)
deriving DecidableEq, Repr

/-- The level from which a handler takes records. -/
def LogHandler.level : LogHandler → LogLevel
  | .console level => level
  | .file level _ _ => level

/-- The package logger. -/
structure Logger where
  level : LogLevel
  handlers : List LogHandler
deriving DecidableEq, Repr

/-- The logger that nobody has set up. -/
def Logger.unset : Logger := ⟨.notSet, []⟩

/-- Why the logger cannot be set up. -/
inductive LogSetupError where
  | file (error : FileError)
  | format (format : Text)
deriving DecidableEq, Repr

/-- The complaint about a set-up. -/
def LogSetupError.message : LogSetupError → Text
  | .file error => error.message
  | .format text => LogFormat.invalidMessage text

/-- The logger and the files to which it may write. -/
structure Logging where
  logger : Logger
  files : FileSystem

namespace Logging

/-- The name of the package logger. -/
def packageName : Text := "ng_template_linter"

/-- Whether records of a logger reach the package logger. -/
def isInPackage (name : Text) : Bool :=
  name == packageName || (packageName ++ ['.']).isPrefixOf name

/-- Open the log file, creating it if needed. -/
def openFile (files : FileSystem) (settings : LogSettings) :
    Except LogSetupError (FileSystem × LogHandler) :=
  let path := (Path.ofText settings.file).absolute files.current
  match files.appendText path [] with
  | .error error => .error (.file error)
  | .ok files => .ok (files, .file settings.fileLevel path settings.lineFormat)

/-- Set the logger up. If the file cannot be used, the console handler is in place nevertheless. Setting the logger up
    anew replaces all handlers. There is always a handler for the console, and one for a file if a file is asked for
    and can be opened. A record reaches a handler if the logger and the handler both take its level. -/
def configure (settings : LogSettings) (logging : Logging) : Logging × Option LogSetupError :=
  let console : Logger := ⟨settings.loggerLevel, [.console settings.level]⟩
  if settings.file.isEmpty then (⟨console, logging.files⟩, none)
  else
    match openFile logging.files settings with
    | .error error => (⟨console, logging.files⟩, some error)
    | .ok (files, handler) =>
      if LogFormat.isValid settings.lineFormat then
        (⟨⟨console.level, console.handlers ++ [handler]⟩, files⟩, none)
      else (⟨console, files⟩, some (.format settings.lineFormat))

/-- Whether the logger of a given name takes records of a level. -/
def isEnabled (logging : Logging) (name : Text) (level : LogLevel) : Bool :=
  (if isInPackage name then logging.logger.level else LogLevel.inherited).admits level

/-- The handlers that a record of a level reaches from the logger of a given name. -/
def receivers (logging : Logging) (name : Text) (level : LogLevel) : List LogHandler :=
  if isInPackage name && logging.isEnabled name level then
    logging.logger.handlers.filter (·.level ≤ level)
  else []

/-- Hand a record to a handler. The console leaves no trace in the files, and a record of which no
    line can be made is lost. -/
def emit (time name : Text) (record : LogRecord) (files : FileSystem) : LogHandler → FileSystem
  | .console _ => files
  | .file _ path format =>
    match LogFormat.line? format time name record with
    | none => files
    | some line =>
      match files.appendText path (line ++ ['\n']) with
      | .ok files => files
      | .error _ => files

/-- Log a record through the logger of a given name, and tell whether that logger takes it. -/
def log (time name : Text) (record : LogRecord) (logging : Logging) : Logging × Bool :=
  let files := (logging.receivers name record.level).foldl (emit time name record) logging.files
  (⟨logging.logger, files⟩, logging.isEnabled name record.level)

end Logging

end TemplateAudit
