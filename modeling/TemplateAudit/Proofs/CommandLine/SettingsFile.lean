import TemplateAudit.Proofs.CommandLine.Failure
import TemplateAudit.Proofs.Settings.Load

namespace TemplateAudit

namespace CommandLine

variable {files : FileSystem} {options : Options} {settings : Settings} {rules : List Rule} {path : Path}
  {error : LoadError} {crash : Crash}

section Run

variable {arguments : List Text} (hoptions : Options.ofArguments arguments = .ok options)

include hoptions

variable (hconfig : options.config = some path) (hlist : options.listRules = false)
  (hpaths : options.paths ≠ [])

include hconfig hlist hpaths

end Run

end CommandLine

end TemplateAudit
