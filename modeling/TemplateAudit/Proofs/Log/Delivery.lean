import TemplateAudit.Proofs.Log.Logger

namespace TemplateAudit

namespace LogFormat

end LogFormat

namespace Logging

variable {logging : Logging} {settings : LogSettings} {current : Path} {error : Option LogSetupError}

end Logging

end TemplateAudit
