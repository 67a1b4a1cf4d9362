import TemplateAudit.Text.Basic

namespace TemplateAudit

/-- The text with every carriage return, and every carriage return with the line feed after it,
    turned into one line feed. -/
def Text.uniformNewlines : Text → Text
  | [] => []
  | '\r' :: '\n' :: rest => '\n' :: uniformNewlines rest
  | c :: rest => (if c = '\r' then '\n' else c) :: uniformNewlines rest

end TemplateAudit
