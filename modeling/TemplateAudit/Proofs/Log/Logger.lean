import TemplateAudit.Log.Logger
import TemplateAudit.Proofs.Files.Content

namespace TemplateAudit

/-- A call of a logger: when, by which name, and what. -/
structure LogCall where
  time : Text
  logger : Text
  record : LogRecord

/-- What may be done with the package logger. -/
inductive LogStep where
  | configure (settings : LogSettings)
  | log (call : LogCall)

/-- The file of the settings, seen from the current directory. -/
def LogSettings.path (settings : LogSettings) (current : Path) : Path :=
  (Path.ofText settings.file).absolute current

/-- The handler for the file of the settings. -/
def LogSettings.fileHandler (settings : LogSettings) (current : Path) : LogHandler :=
  .file settings.fileLevel (settings.path current) settings.lineFormat

/-- The handlers after a set-up: one for the console, and one for the file if there is one to be used. -/
def LogSettings.handlers (settings : LogSettings) (current : Path) (error : Option LogSetupError) :
    List LogHandler :=
  .console settings.level ::
    if settings.file ≠ [] ∧ error = none then [settings.fileHandler current] else []

/-- The path of a log file is absolute and has no steps up. -/
theorem LogSettings.isFileName_path (settings : LogSettings) {current : Path}
    (hcurrent : current.isAbsolute = true) :
    (settings.path current).isAbsolute = true ∧ Path.up ∉ (settings.path current).parts := by
  refine ⟨?_, Path.up_not_mem_withoutUps _⟩
  show (current.join (Path.ofText settings.file)).isAbsolute = true
  unfold Path.join
  split_ifs with h
  · exact h
  · exact hcurrent

namespace Logging

/-- The logging after one thing is done. -/
def step (logging : Logging) : LogStep → Logging
  | .configure settings => (logging.configure settings).1
  | .log call => (logging.log call.time call.logger call.record).1

/-- The logging after things are done in order. -/
def run (logging : Logging) (steps : List LogStep) : Logging := steps.foldl step logging

/-- The line that a call of a logger adds to the file of the settings, if that file gets the record. -/
def written? (logging : Logging) (settings : LogSettings) (call : LogCall) : Option Text :=
  if settings.fileHandler logging.files.current ∈ logging.receivers call.logger call.record.level then
    LogFormat.line? settings.lineFormat call.time call.logger call.record
  else none

/-- A file that can be opened gets nothing more by that. -/
theorem openFile_eq_ok {files after : FileSystem} {settings : LogSettings} {handler : LogHandler}
    (h : openFile files settings = .ok (after, handler)) :
    files.appendText (settings.path files.current) [] = .ok after ∧
      handler = settings.fileHandler files.current := by
  unfold openFile at h
  cases happend : files.appendText ((Path.ofText settings.file).absolute files.current) [] with
  | error error =>
    simp only [happend] at h
    cases h
  | ok opened =>
    simp only [happend] at h
    obtain ⟨rfl, rfl⟩ := Prod.mk.inj (Except.ok.inj h)
    exact ⟨happend, rfl⟩

/-- All that a set-up can do: the handlers are new in any case, and the files are the same or the log file
    has been opened. -/
theorem configure_cases (logging : Logging) (settings : LogSettings) :
    (logging.configure settings).1.logger.handlers =
        settings.handlers logging.files.current (logging.configure settings).2 ∧
      ((logging.configure settings).1.files = logging.files ∧
          ¬ (settings.file ≠ [] ∧ (logging.configure settings).2 = none) ∨
        logging.files.appendText (settings.path logging.files.current) [] =
          .ok (logging.configure settings).1.files) := by
  unfold configure
  by_cases hfile : settings.file = []
  · simp [hfile, LogSettings.handlers]
  · rw [if_neg (by simpa using hfile)]
    cases hopen : openFile logging.files settings with
    | error error => simp [LogSettings.handlers]
    | ok opened =>
      obtain ⟨files, handler⟩ := opened
      obtain ⟨happend, rfl⟩ := openFile_eq_ok hopen
      by_cases hvalid : LogFormat.isValid settings.lineFormat = true
      · simp [hvalid, hfile, LogSettings.handlers, happend]
      · simp [hvalid, LogSettings.handlers, happend]

/-- The logging as a set-up with these settings has left it, whatever has been logged since. -/
structure SetUpBy (logging : Logging) (settings : LogSettings) (current : Path)
    (error : Option LogSetupError) : Prop where
  directory : logging.files.current = current
  handlers : logging.logger.handlers = settings.handlers current error
  readable : settings.file ≠ [] → error = none →
    ∃ content, logging.files.readBytes (settings.path current) = .ok content

variable {logging : Logging} {settings : LogSettings} {current : Path} {error : Option LogSetupError}

/-- Configuring sets the logger up, and no content is lost. -/
theorem setUpBy_configure (hcurrent : logging.files.current.isAbsolute = true) (settings : LogSettings) :
    SetUpBy (logging.step (.configure settings)) settings logging.files.current
        (logging.configure settings).2 ∧
      logging.files.Keeps (logging.step (.configure settings)).files := by
  obtain ⟨hhandlers, ⟨hsame, hnone⟩ | hopened⟩ := logging.configure_cases settings
  · have hfiles : (logging.step (.configure settings)).files = logging.files := hsame
    refine ⟨⟨by rw [hfiles], hhandlers, fun hfile herror => absurd ⟨hfile, herror⟩ hnone⟩, ?_⟩
    rw [hfiles]
    exact .refl _
  · obtain ⟨habsolute, hups⟩ := LogSettings.isFileName_path settings hcurrent
    refine ⟨⟨(FileSystem.appendText_eq_ok hopened).2.2.1, hhandlers, fun _ _ => ?_⟩,
      FileSystem.keeps_of_appendText hopened⟩
    exact ⟨_, FileSystem.readBytes_of_appendText hopened habsolute hups⟩

/-- A record reaches at most one file, which is that of the last set-up, and it does so once. -/
theorem SetUpBy.receivers_cases (h : SetUpBy logging settings current error) (name : Text) (level : LogLevel) :
    ∃ consoles, (∀ handler ∈ consoles, handler = .console settings.level) ∧
      (logging.receivers name level = consoles ∨
        settings.file ≠ [] ∧ error = none ∧
          logging.receivers name level = consoles ++ [settings.fileHandler current]) := by
  have hconsole : ∀ handler ∈ [LogHandler.console settings.level].filter (·.level ≤ level),
      handler = .console settings.level :=
    fun handler hmem => List.mem_singleton.mp (List.mem_of_mem_filter hmem)
  rw [receivers, h.handlers, LogSettings.handlers, ← List.singleton_append]
  split_ifs with hpassed hnamed
  · rw [List.filter_append]
    refine ⟨_, hconsole, ?_⟩
    by_cases hlevel : (settings.fileHandler current).level ≤ level
    · exact .inr ⟨hnamed.1, hnamed.2, by simp [hlevel]⟩
    · exact .inl (by simp [hlevel])
  · exact ⟨_, hconsole, .inl (by rw [List.append_nil])⟩
  · exact ⟨[], List.forall_mem_nil _, .inl rfl⟩

/-- Handlers for the console leave the files alone. -/
theorem foldl_emit_of_consoles {time name : Text} {record : LogRecord} {level : LogLevel}
    {consoles : List LogHandler} (h : ∀ handler ∈ consoles, handler = .console level) (files : FileSystem) :
    consoles.foldl (emit time name record) files = files := by
  induction consoles with
  | nil => rfl
  | cons handler rest ih =>
    obtain ⟨rfl, hrest⟩ := List.forall_mem_cons.mp h
    exact ih hrest

section Current

variable (hcurrent : current.isAbsolute = true)

include hcurrent

/-- A record changes no file, or its line is appended to the file of the last set-up. -/
theorem SetUpBy.files_log (h : SetUpBy logging settings current error) (call : LogCall) :
    (logging.written? settings call = none ∧ (logging.step (.log call)).files = logging.files) ∨
      ∃ line, logging.written? settings call = some line ∧ settings.file ≠ [] ∧ error = none ∧
        logging.files.appendText (settings.path current) (line ++ "\n") =
          .ok (logging.step (.log call)).files := by
  have hfiles : (logging.step (.log call)).files =
      (logging.receivers call.logger call.record.level).foldl (emit call.time call.logger call.record)
        logging.files := rfl
  obtain ⟨consoles, hconsoles, hreceivers | ⟨hfile, herror, hreceivers⟩⟩ :=
    h.receivers_cases call.logger call.record.level
  · refine .inl ⟨if_neg fun hmem => ?_, by rw [hfiles, hreceivers, foldl_emit_of_consoles hconsoles]⟩
    rw [hreceivers] at hmem
    cases hconsoles _ hmem
  · have hwritten : logging.written? settings call =
        LogFormat.line? settings.lineFormat call.time call.logger call.record := by
      rw [written?, hreceivers, h.directory]
      exact if_pos (List.mem_append_right _ List.mem_cons_self)
    rw [hwritten, hfiles, hreceivers, List.foldl_append, foldl_emit_of_consoles hconsoles]
    cases hline : LogFormat.line? settings.lineFormat call.time call.logger call.record with
    | none => exact .inl ⟨rfl, by simp [LogSettings.fileHandler, emit, hline]⟩
    | some line =>
      obtain ⟨habsolute, hups⟩ := settings.isFileName_path hcurrent
      obtain ⟨content, hread⟩ := h.readable hfile herror
      obtain ⟨after, happend⟩ := FileSystem.exists_appendText_of_readBytes habsolute hups hread (line ++ ['\n'])
      exact .inr ⟨line, rfl, hfile, herror, by simp [LogSettings.fileHandler, emit, hline, happend]⟩

/-- Logging leaves the logger as it was set up, and every file keeps what it held. -/
theorem SetUpBy.log (h : SetUpBy logging settings current error) (call : LogCall) :
    SetUpBy (logging.step (.log call)) settings current error ∧
      logging.files.Keeps (logging.step (.log call)).files := by
  obtain ⟨_, hsame⟩ | ⟨line, _, _, _, happend⟩ := h.files_log hcurrent call
  · exact ⟨⟨by rw [hsame, h.directory], h.handlers, fun hfile herror => by
      rw [hsame]
      exact h.readable hfile herror⟩, by rw [hsame]; exact .refl _⟩
  · obtain ⟨habsolute, hups⟩ := settings.isFileName_path hcurrent
    have hdirectory := (FileSystem.appendText_eq_ok happend).2.2.1
    exact ⟨⟨hdirectory.trans h.directory, h.handlers, fun _ _ =>
      ⟨_, FileSystem.readBytes_of_appendText happend habsolute hups⟩⟩, FileSystem.keeps_of_appendText happend⟩

/-- What the logging may have come to: nobody has set it up, or somebody has. -/
def Reached (logging : Logging) (current : Path) : Prop :=
  logging.files.current = current ∧
    (logging.logger.handlers = [] ∨ ∃ settings error, SetUpBy logging settings current error)

omit hcurrent in
/-- Without handlers nothing is written. -/
theorem step_log_of_unset (h : logging.logger.handlers = []) (call : LogCall) :
    logging.step (.log call) = logging := by
  have hnone : logging.receivers call.logger call.record.level = [] := by
    rw [receivers, h]
    split <;> rfl
  show (⟨logging.logger, _⟩ : Logging) = logging
  rw [hnone]
  rfl

/-- A step leads from a state that is reached to another, and no content is lost. -/
theorem Reached.step (h : Reached logging current) (step : LogStep) :
    Reached (logging.step step) current ∧ logging.files.Keeps (logging.step step).files := by
  cases step with
  | configure settings =>
    obtain ⟨rfl, _⟩ := h
    obtain ⟨hsetUp, hkeeps⟩ := setUpBy_configure hcurrent settings
    exact ⟨⟨hsetUp.directory, .inr ⟨_, _, hsetUp⟩⟩, hkeeps⟩
  | log call =>
    obtain ⟨hdirectory, hunset | ⟨settings, error, hsetUp⟩⟩ := h
    · rw [step_log_of_unset hunset]
      exact ⟨⟨hdirectory, .inl hunset⟩, .refl _⟩
    · obtain ⟨hsetUp, hkeeps⟩ := hsetUp.log hcurrent call
      exact ⟨⟨hsetUp.directory, .inr ⟨_, _, hsetUp⟩⟩, hkeeps⟩

/-- Any number of steps lead from a state that is reached to another, and no content is lost. -/
theorem Reached.run (h : Reached logging current) (steps : List LogStep) :
    Reached (logging.run steps) current ∧ logging.files.Keeps (logging.run steps).files := by
  induction steps generalizing logging with
  | nil => exact ⟨h, .refl _⟩
  | cons step rest ih =>
    obtain ⟨hfirst, hkeeps⟩ := h.step hcurrent step
    obtain ⟨hlast, hkeeps'⟩ := ih hfirst
    exact ⟨hlast, hkeeps.trans hkeeps'⟩

end Current

end Logging

end TemplateAudit
