import TemplateAudit.Text.Basic

namespace TemplateAudit

/-- The weight of a log record; heavier records pass more thresholds. -/
abbrev LogLevel := Int

namespace LogLevel

/-- Takes its meaning from the parent logger. -/
def notSet : LogLevel := 0

def debug : LogLevel := 10

def info : LogLevel := 20

def warning : LogLevel := 30

def error : LogLevel := 40

def critical : LogLevel := 50

/-- The names under which levels may be asked for. -/
def names : List (Text × LogLevel) :=
  [("CRITICAL", critical), ("FATAL", critical), ("ERROR", error), ("WARN", warning),
   ("WARNING", warning), ("INFO", info), ("DEBUG", debug), ("NOTSET", notSet)]

/-- The level with a given name. -/
def ofName? (name : Text) : Option LogLevel := names.lookup name

/-- The name of a level; one without a name of its own is called by its number. -/
def label (level : LogLevel) : Text :=
  if level = critical then "CRITICAL"
  else if level = error then "ERROR"
  else if level = warning then "WARNING"
  else if level = info then "INFO"
  else if level = debug then "DEBUG"
  else if level = notSet then "NOTSET"
  else "Level " ++ Text.ofInt level

/-- The threshold that a logger without a level of its own takes from its parent. -/
def inherited : LogLevel := warning

/-- The threshold of a logger with a given level. -/
def threshold (level : LogLevel) : LogLevel := if level = notSet then inherited else level

/-- Whether a logger of level `own` takes records of a level. Records without weight are never
    taken. -/
def admits (own level : LogLevel) : Bool := 0 < level && own.threshold ≤ level

end LogLevel

/-- A message with its level. -/
structure LogRecord where
  level : LogLevel
  message : Text
deriving DecidableEq, Repr

/-- A result and the records logged on the way to it. -/
structure Logged (α : Type) where
  log : List LogRecord
  value : α
deriving Repr

end TemplateAudit
