import EventLedger.Reduction.Basic

namespace EventLedger.MissionAudit

inductive AuditStatus where
  | pending
  | running
  | awaitingDecision
  | completed
  | failed
deriving DecidableEq, Repr

namespace AuditStatus

def name : AuditStatus → String
  | .pending => "pending"
  | .running => "running"
  | .awaitingDecision => "awaiting_decision"
  | .completed => "completed"
  | .failed => "failed"

def isTerminal : AuditStatus → Bool
  | .completed | .failed => true
  | _ => false

end AuditStatus

structure Failure where
  errorCode : String
  errorMessage : String
  partialArtifactRef : Option String
deriving DecidableEq, Repr

def Failure.toJson (f : Failure) : Json :=
  .object [("error_code", .string f.errorCode), ("error_message", .string f.errorMessage),
    ("partial_artifact_ref", .text? f.partialArtifactRef)]

structure State where
  requested : Bool := false
  status : AuditStatus := .pending
  triggerMode : Option String := none
  auditScope : List String := []
  verdict : Option AuditVerdict := none
  severity : Option AuditSeverity := none
  findingsCount : Nat := 0
  artifactRef : Option String := none
  summary : Option String := none
  failure : Option Failure := none
  pending : List PendingDecision := []
deriving DecidableEq, Repr

/-- An audit that goes on without a request. It is reported once, and then counts as requested. -/
def unrequested (s : State) (e : Event) : List Finding :=
  if s.requested then []
  else [⟨.eventBeforeRequested, e.eventType ++ " without a prior MissionAuditRequested"⟩]

def request (s : State) (p : Payload.MissionAuditRequested) : State × List Finding :=
  if s.requested then (s, [⟨.duplicateStart, "Audit already requested"⟩])
  else ({ s with requested := true, triggerMode := p.triggerMode }, [])

def commence (s : State) (p : Payload.MissionAuditStarted) : State × List Finding :=
  if s.status = .pending then ({ s with status := .running, auditScope := p.auditScope }, [])
  else (s, [⟨.duplicateStart, "Audit already " ++ s.status.name⟩])

def ask (s : State) (e : Event) (p : Payload.MissionAuditDecisionRequested) :
    State × List Finding :=
  if s.pending.any fun d => d.decisionId == p.decisionId then
    (s, [⟨.duplicateDecisionId, "Decision " ++ p.decisionId ++ " is already pending"⟩])
  else
    ({ s with
        pending := s.pending ++ [⟨p.decisionId, p.question, p.options, e.id⟩]
        status := .awaitingDecision }, [])

def complete (s : State) (p : Payload.MissionAuditCompleted) : State :=
  { s with
    status := .completed, verdict := some p.verdict, severity := p.severity,
    findingsCount := p.findingsCount, artifactRef := p.artifactRef, summary := p.summary,
    pending := [] }

def fail (s : State) (p : Payload.MissionAuditFailed) : State :=
  { s with
    status := .failed
    failure := some ⟨p.errorCode, p.errorMessage, p.partialArtifactRef⟩
    pending := [] }

def prematureEnd (s : State) : List Finding :=
  if s.requested && s.status == .pending then
    [⟨.invalidTransition, "Audit completed before it started"⟩]
  else []

def proceed (s : State) (e : Event) : Payload → State × List Finding
  | .missionAuditRequested p => request s p
  | .missionAuditStarted p =>
    let (after, found) := commence { s with requested := true } p
    (after, unrequested s e ++ found)
  | .missionAuditDecisionRequested p =>
    let (after, found) := ask { s with requested := true } e p
    (after, unrequested s e ++ found)
  | .missionAuditCompleted p =>
    (complete { s with requested := true } p, prematureEnd s ++ unrequested s e)
  | .missionAuditFailed p => (fail { s with requested := true } p, unrequested s e)
  | _ => (s, [])

def step (s : State) (e : Event) (p : Payload) : State × List Finding :=
  if s.status.isTerminal then
    (s, [⟨.eventAfterTerminal, e.eventType ++ " after audit " ++ s.status.name⟩])
  else proceed s e p

def kinds : List Kind :=
  [.missionAuditRequested, .missionAuditStarted, .missionAuditDecisionRequested,
    .missionAuditCompleted, .missionAuditFailed]

def projection : Projection State := ⟨.missionAudit, kinds, fun _ => {}, step⟩

def State.members (s : State) : List (String × Json) :=
  [("audit_status", .string s.status.name), ("trigger_mode", .text? s.triggerMode),
    ("audit_scope", .strings s.auditScope), ("verdict", .optional AuditVerdict.toJson s.verdict),
    ("severity", .optional AuditSeverity.toJson s.severity),
    ("findings_count", .nat s.findingsCount), ("artifact_ref", .text? s.artifactRef),
    ("summary", .text? s.summary), ("failure", .optional Failure.toJson s.failure),
    ("pending_decisions", .array (s.pending.map PendingDecision.toJson))]

end EventLedger.MissionAudit
