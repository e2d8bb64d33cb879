import EventLedger.Json.Decoder
import EventLedger.Payload.Values

/-! Payloads of mission audit events. -/

namespace EventLedger.Payload

structure MissionAuditRequested where
  triggerMode : Option String
  actor : Option String
deriving DecidableEq, Repr

namespace MissionAuditRequested

def record : Record MissionAuditRequested :=
  Record.of "MissionAuditRequested" mk
    |>.optional "trigger_mode" .string
    |>.optional "actor" .string

def toJson (p : MissionAuditRequested) : Json :=
  .record [("trigger_mode", .text? p.triggerMode), ("actor", .text? p.actor)]

end MissionAuditRequested

structure MissionAuditStarted where
  auditScope : List String
deriving DecidableEq, Repr

namespace MissionAuditStarted

def record : Record MissionAuditStarted :=
  Record.of "MissionAuditStarted" mk
    |>.defaulted "audit_scope" .strings []

def toJson (p : MissionAuditStarted) : Json :=
  .record [("audit_scope", .strings p.auditScope)]

end MissionAuditStarted

structure MissionAuditDecisionRequested where
  decisionId : String
  question : String
  options : List String
deriving DecidableEq, Repr

namespace MissionAuditDecisionRequested

def record : Record MissionAuditDecisionRequested :=
  Record.of "MissionAuditDecisionRequested" mk
    |>.required "decision_id" .string
    |>.defaulted "question" .string ""
    |>.defaulted "options" .strings []

def toJson (p : MissionAuditDecisionRequested) : Json :=
  .record [("decision_id", .string p.decisionId), ("question", .string p.question),
    ("options", .strings p.options)]

end MissionAuditDecisionRequested

structure MissionAuditCompleted where
  verdict : AuditVerdict
  severity : Option AuditSeverity
  findingsCount : Nat
  artifactRef : Option String
  summary : Option String
deriving DecidableEq, Repr

namespace MissionAuditCompleted

def record : Record MissionAuditCompleted :=
  Record.of "MissionAuditCompleted" mk
    |>.required "verdict" AuditVerdict.decoder
    |>.optional "severity" AuditSeverity.decoder
    |>.defaulted "findings_count" .word32 0
    |>.optional "artifact_ref" .string
    |>.optional "summary" .string

def toJson (p : MissionAuditCompleted) : Json :=
  .record [("verdict", p.verdict.toJson),
    ("severity", .optional AuditSeverity.toJson p.severity),
    ("findings_count", .nat p.findingsCount), ("artifact_ref", .text? p.artifactRef),
    ("summary", .text? p.summary)]

end MissionAuditCompleted

structure MissionAuditFailed where
  errorCode : String
  errorMessage : String
  partialArtifactRef : Option String
deriving DecidableEq, Repr

namespace MissionAuditFailed

def record : Record MissionAuditFailed :=
  Record.of "MissionAuditFailed" mk
    |>.required "error_code" .string
    |>.defaulted "error_message" .string ""
    |>.optional "partial_artifact_ref" .string

def toJson (p : MissionAuditFailed) : Json :=
  .record [("error_code", .string p.errorCode), ("error_message", .string p.errorMessage),
    ("partial_artifact_ref", .text? p.partialArtifactRef)]

end MissionAuditFailed

end EventLedger.Payload
