import EventLedger.Json.Decoder

/-! Values out of a fixed choice that payloads hold. -/

namespace EventLedger

inductive AuditVerdict where
  | pass
  | passWithWarnings
  | fail
  | blockedDecisionRequired
deriving DecidableEq, Repr

namespace AuditVerdict

def name : AuditVerdict → String
  | .pass => "pass"
  | .passWithWarnings => "pass_with_warnings"
  | .fail => "fail"
  | .blockedDecisionRequired => "blocked_decision_required"

def all : List AuditVerdict := [.pass, .passWithWarnings, .fail, .blockedDecisionRequired]

def decoder : Decoder AuditVerdict := .choice (all.map fun v => (v.name, v))

def toJson (v : AuditVerdict) : Json := .string v.name

end AuditVerdict

inductive AuditSeverity where
  | info
  | warning
  | error
  | critical
deriving DecidableEq, Repr

namespace AuditSeverity

def name : AuditSeverity → String
  | .info => "info"
  | .warning => "warning"
  | .error => "error"
  | .critical => "critical"

def all : List AuditSeverity := [.info, .warning, .error, .critical]

def decoder : Decoder AuditSeverity := .choice (all.map fun v => (v.name, v))

def toJson (v : AuditSeverity) : Json := .string v.name

end AuditSeverity

inductive StepResult where
  | success
  | failed
  | skipped
deriving DecidableEq, Repr

namespace StepResult

def name : StepResult → String
  | .success => "success"
  | .failed => "failed"
  | .skipped => "skipped"

def all : List StepResult := [.success, .failed, .skipped]

def decoder : Decoder StepResult := .choice (all.map fun v => (v.name, v))

def toJson (v : StepResult) : Json := .string v.name

end StepResult

inductive DriveIntent where
  | active
  | inactive
deriving DecidableEq, Repr

namespace DriveIntent

def name : DriveIntent → String
  | .active => "active"
  | .inactive => "inactive"

def all : List DriveIntent := [.active, .inactive]

def decoder : Decoder DriveIntent := .choice (all.map fun v => (v.name, v))

def toJson (v : DriveIntent) : Json := .string v.name

end DriveIntent

inductive Strictness where
  | off
  | medium
  | max
deriving DecidableEq, Repr

namespace Strictness

def name : Strictness → String
  | .off => "off"
  | .medium => "medium"
  | .max => "max"

def all : List Strictness := [.off, .medium, .max]

def decoder : Decoder Strictness := .choice (all.map fun v => (v.name, v))

def toJson (v : Strictness) : Json := .string v.name

end Strictness

inductive CheckOutcome where
  | pass
  | warn
  | block
deriving DecidableEq, Repr

namespace CheckOutcome

def name : CheckOutcome → String
  | .pass => "pass"
  | .warn => "warn"
  | .block => "block"

def all : List CheckOutcome := [.pass, .warn, .block]

def decoder : Decoder CheckOutcome := .choice (all.map fun v => (v.name, v))

def toJson (v : CheckOutcome) : Json := .string v.name

end CheckOutcome
end EventLedger
