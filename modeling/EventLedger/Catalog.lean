import EventLedger.Text.Blank

namespace EventLedger

inductive Domain where
  | status
  | lifecycle
  | missionAudit
  | decisionPoint
  | connector
  | sync
  | missionNext
  | collaboration
  | glossary
deriving DecidableEq, Repr

namespace Domain

def all : List Domain :=
  [.status, .lifecycle, .missionAudit, .decisionPoint, .connector, .sync, .missionNext,
    .collaboration, .glossary]

def name : Domain → String
  | .status => "status"
  | .lifecycle => "lifecycle"
  | .missionAudit => "mission_audit"
  | .decisionPoint => "decision_point"
  | .connector => "connector"
  | .sync => "sync"
  | .missionNext => "mission_next"
  | .collaboration => "collaboration"
  | .glossary => "glossary"

def ofName? (s : String) : Option Domain :=
  all.find? fun d => d.name == Text.canonicalName s

def stems : Domain → List String
  | .status => ["WPStatus"]
  | .lifecycle => ["Mission", "Phase"]
  | .missionAudit => ["MissionAudit"]
  | .decisionPoint => ["DecisionPoint"]
  | .connector => ["Connector"]
  | .sync => ["Sync"]
  | .missionNext => ["MissionRun", "NextStep", "DecisionInput"]
  | .collaboration => ["Participant", "DriveIntent", "Focus", "Comment", "Warning"]
  | .glossary => ["Glossary", "TermCandidate", "SemanticCheck", "GenerationBlocked"]

def beginsWith (stem s : String) : Bool := stem.toList.isPrefixOf s.toList

def matchingStems (eventType : String) : List (Nat × Domain) :=
  all.flatMap fun d =>
    (d.stems.filter fun stem => beginsWith stem eventType).map fun stem => (stem.length, d)

/-- The domain that an event type outside the catalog is attributed to: the one with the longest
    matching stem. -/
def claiming (eventType : String) : Option Domain :=
  ((matchingStems eventType).foldl
    (fun (best : Option (Nat × Domain)) m =>
      match best with
      | some b => if b.1 ≤ m.1 then some m else some b
      | none => some m)
    none).map (·.2)

end Domain

inductive Kind where
  | wpStatusChanged
  | missionCreated
  | missionStarted
  | phaseEntered
  | missionPaused
  | missionResumed
  | missionCompleted
  | missionCancelled
  | missionAuditRequested
  | missionAuditStarted
  | missionAuditDecisionRequested
  | missionAuditCompleted
  | missionAuditFailed
  | decisionPointOpened
  | decisionPointDiscussing
  | decisionPointResolved
  | decisionPointOverridden
  | connectorProvisioned
  | connectorHealthChecked
  | connectorDegraded
  | connectorRecovered
  | connectorRevoked
  | connectorDecommissioned
  | syncIngestAccepted
  | syncIngestRejected
  | syncRetryScheduled
  | syncDeadLettered
  | missionRunStarted
  | nextStepIssued
  | nextStepAutoCompleted
  | decisionInputRequested
  | decisionInputAnswered
  | missionRunCompleted
  | participantInvited
  | participantJoined
  | participantLeft
  | driveIntentSet
  | focusChanged
  | commentPosted
  | warningRaised
  | warningAcknowledged
  | glossaryScopeActivated
  | glossaryStrictnessSet
  | termCandidateObserved
  | glossarySenseUpdated
  | glossaryClarificationRequested
  | glossaryClarificationResolved
  | semanticCheckEvaluated
  | generationBlockedBySemanticConflict
deriving DecidableEq, Repr

namespace Kind

def all : List Kind :=
  [.wpStatusChanged, .missionCreated, .missionStarted, .phaseEntered, .missionPaused,
    .missionResumed, .missionCompleted, .missionCancelled, .missionAuditRequested,
    .missionAuditStarted, .missionAuditDecisionRequested, .missionAuditCompleted,
    .missionAuditFailed, .decisionPointOpened, .decisionPointDiscussing, .decisionPointResolved,
    .decisionPointOverridden, .connectorProvisioned, .connectorHealthChecked, .connectorDegraded,
    .connectorRecovered, .connectorRevoked, .connectorDecommissioned, .syncIngestAccepted,
    .syncIngestRejected, .syncRetryScheduled, .syncDeadLettered, .missionRunStarted,
    .nextStepIssued, .nextStepAutoCompleted, .decisionInputRequested, .decisionInputAnswered,
    .missionRunCompleted, .participantInvited, .participantJoined, .participantLeft,
    .driveIntentSet, .focusChanged, .commentPosted, .warningRaised, .warningAcknowledged,
    .glossaryScopeActivated, .glossaryStrictnessSet, .termCandidateObserved,
    .glossarySenseUpdated, .glossaryClarificationRequested, .glossaryClarificationResolved,
    .semanticCheckEvaluated, .generationBlockedBySemanticConflict]

def name : Kind → String
  | .wpStatusChanged => "WPStatusChanged"
  | .missionCreated => "MissionCreated"
  | .missionStarted => "MissionStarted"
  | .phaseEntered => "PhaseEntered"
  | .missionPaused => "MissionPaused"
  | .missionResumed => "MissionResumed"
  | .missionCompleted => "MissionCompleted"
  | .missionCancelled => "MissionCancelled"
  | .missionAuditRequested => "MissionAuditRequested"
  | .missionAuditStarted => "MissionAuditStarted"
  | .missionAuditDecisionRequested => "MissionAuditDecisionRequested"
  | .missionAuditCompleted => "MissionAuditCompleted"
  | .missionAuditFailed => "MissionAuditFailed"
  | .decisionPointOpened => "DecisionPointOpened"
  | .decisionPointDiscussing => "DecisionPointDiscussing"
  | .decisionPointResolved => "DecisionPointResolved"
  | .decisionPointOverridden => "DecisionPointOverridden"
  | .connectorProvisioned => "ConnectorProvisioned"
  | .connectorHealthChecked => "ConnectorHealthChecked"
  | .connectorDegraded => "ConnectorDegraded"
  | .connectorRecovered => "ConnectorRecovered"
  | .connectorRevoked => "ConnectorRevoked"
  | .connectorDecommissioned => "ConnectorDecommissioned"
  | .syncIngestAccepted => "SyncIngestAccepted"
  | .syncIngestRejected => "SyncIngestRejected"
  | .syncRetryScheduled => "SyncRetryScheduled"
  | .syncDeadLettered => "SyncDeadLettered"
  | .missionRunStarted => "MissionRunStarted"
  | .nextStepIssued => "NextStepIssued"
  | .nextStepAutoCompleted => "NextStepAutoCompleted"
  | .decisionInputRequested => "DecisionInputRequested"
  | .decisionInputAnswered => "DecisionInputAnswered"
  | .missionRunCompleted => "MissionRunCompleted"
  | .participantInvited => "ParticipantInvited"
  | .participantJoined => "ParticipantJoined"
  | .participantLeft => "ParticipantLeft"
  | .driveIntentSet => "DriveIntentSet"
  | .focusChanged => "FocusChanged"
  | .commentPosted => "CommentPosted"
  | .warningRaised => "WarningRaised"
  | .warningAcknowledged => "WarningAcknowledged"
  | .glossaryScopeActivated => "GlossaryScopeActivated"
  | .glossaryStrictnessSet => "GlossaryStrictnessSet"
  | .termCandidateObserved => "TermCandidateObserved"
  | .glossarySenseUpdated => "GlossarySenseUpdated"
  | .glossaryClarificationRequested => "GlossaryClarificationRequested"
  | .glossaryClarificationResolved => "GlossaryClarificationResolved"
  | .semanticCheckEvaluated => "SemanticCheckEvaluated"
  | .generationBlockedBySemanticConflict => "GenerationBlockedBySemanticConflict"

def domain : Kind → Domain
  | .wpStatusChanged => .status
  | .missionCreated | .missionStarted | .phaseEntered | .missionPaused | .missionResumed
  | .missionCompleted | .missionCancelled => .lifecycle
  | .missionAuditRequested | .missionAuditStarted | .missionAuditDecisionRequested
  | .missionAuditCompleted | .missionAuditFailed => .missionAudit
  | .decisionPointOpened | .decisionPointDiscussing | .decisionPointResolved
  | .decisionPointOverridden => .decisionPoint
  | .connectorProvisioned | .connectorHealthChecked | .connectorDegraded
  | .connectorRecovered | .connectorRevoked | .connectorDecommissioned => .connector
  | .syncIngestAccepted | .syncIngestRejected | .syncRetryScheduled | .syncDeadLettered => .sync
  | .missionRunStarted | .nextStepIssued | .nextStepAutoCompleted | .decisionInputRequested
  | .decisionInputAnswered | .missionRunCompleted => .missionNext
  | .participantInvited | .participantJoined | .participantLeft | .driveIntentSet
  | .focusChanged | .commentPosted | .warningRaised | .warningAcknowledged => .collaboration
  | .glossaryScopeActivated | .glossaryStrictnessSet | .termCandidateObserved
  | .glossarySenseUpdated | .glossaryClarificationRequested
  | .glossaryClarificationResolved | .semanticCheckEvaluated
  | .generationBlockedBySemanticConflict => .glossary

def ofName? (s : String) : Option Kind := all.find? fun k => k.name == s

def ofDomain (d : Domain) : List Kind := all.filter fun k => k.domain = d

end Kind
end EventLedger
