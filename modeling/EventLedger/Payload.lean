import EventLedger.Catalog
import EventLedger.Payload.Collaboration
import EventLedger.Payload.Connector
import EventLedger.Payload.DecisionPoint
import EventLedger.Payload.Glossary
import EventLedger.Payload.Lifecycle
import EventLedger.Payload.MissionAudit
import EventLedger.Payload.MissionNext
import EventLedger.Payload.Status
import EventLedger.Payload.Sync

namespace EventLedger

inductive Payload where
  | wpStatusChanged (p : Payload.WpStatusChanged)
  | missionCreated (p : Payload.MissionCreated)
  | missionStarted (p : Payload.MissionStarted)
  | phaseEntered (p : Payload.PhaseEntered)
  | missionPaused (p : Payload.MissionPaused)
  | missionResumed (p : Payload.MissionResumed)
  | missionCompleted (p : Payload.MissionCompleted)
  | missionCancelled (p : Payload.MissionCancelled)
  | missionAuditRequested (p : Payload.MissionAuditRequested)
  | missionAuditStarted (p : Payload.MissionAuditStarted)
  | missionAuditDecisionRequested (p : Payload.MissionAuditDecisionRequested)
  | missionAuditCompleted (p : Payload.MissionAuditCompleted)
  | missionAuditFailed (p : Payload.MissionAuditFailed)
  | decisionPointOpened (p : Payload.DecisionPointOpened)
  | decisionPointDiscussing (p : Payload.DecisionPointDiscussing)
  | decisionPointResolved (p : Payload.DecisionPointResolved)
  | decisionPointOverridden (p : Payload.DecisionPointOverridden)
  | connectorProvisioned (p : Payload.ConnectorProvisioned)
  | connectorHealthChecked (p : Payload.ConnectorHealthChecked)
  | connectorDegraded (p : Payload.ConnectorDegraded)
  | connectorRecovered (p : Payload.ConnectorRecovered)
  | connectorRevoked (p : Payload.ConnectorRevoked)
  | connectorDecommissioned (p : Payload.ConnectorDecommissioned)
  | syncIngestAccepted (p : Payload.SyncIngestAccepted)
  | syncIngestRejected (p : Payload.SyncIngestRejected)
  | syncRetryScheduled (p : Payload.SyncRetryScheduled)
  | syncDeadLettered (p : Payload.SyncDeadLettered)
  | missionRunStarted (p : Payload.MissionRunStarted)
  | nextStepIssued (p : Payload.NextStepIssued)
  | nextStepAutoCompleted (p : Payload.NextStepAutoCompleted)
  | decisionInputRequested (p : Payload.DecisionInputRequested)
  | decisionInputAnswered (p : Payload.DecisionInputAnswered)
  | missionRunCompleted (p : Payload.MissionRunCompleted)
  | participantInvited (p : Payload.ParticipantInvited)
  | participantJoined (p : Payload.ParticipantJoined)
  | participantLeft (p : Payload.ParticipantLeft)
  | driveIntentSet (p : Payload.DriveIntentSet)
  | focusChanged (p : Payload.FocusChanged)
  | commentPosted (p : Payload.CommentPosted)
  | warningRaised (p : Payload.WarningRaised)
  | warningAcknowledged (p : Payload.WarningAcknowledged)
  | glossaryScopeActivated (p : Payload.GlossaryScopeActivated)
  | glossaryStrictnessSet (p : Payload.GlossaryStrictnessSet)
  | termCandidateObserved (p : Payload.TermCandidateObserved)
  | glossarySenseUpdated (p : Payload.GlossarySenseUpdated)
  | glossaryClarificationRequested (p : Payload.GlossaryClarificationRequested)
  | glossaryClarificationResolved (p : Payload.GlossaryClarificationResolved)
  | semanticCheckEvaluated (p : Payload.SemanticCheckEvaluated)
  | generationBlockedBySemanticConflict (p : Payload.GenerationBlockedBySemanticConflict)
deriving DecidableEq, Repr

namespace Payload

def kind : Payload → Kind
  | .wpStatusChanged _ => .wpStatusChanged
  | .missionCreated _ => .missionCreated
  | .missionStarted _ => .missionStarted
  | .phaseEntered _ => .phaseEntered
  | .missionPaused _ => .missionPaused
  | .missionResumed _ => .missionResumed
  | .missionCompleted _ => .missionCompleted
  | .missionCancelled _ => .missionCancelled
  | .missionAuditRequested _ => .missionAuditRequested
  | .missionAuditStarted _ => .missionAuditStarted
  | .missionAuditDecisionRequested _ => .missionAuditDecisionRequested
  | .missionAuditCompleted _ => .missionAuditCompleted
  | .missionAuditFailed _ => .missionAuditFailed
  | .decisionPointOpened _ => .decisionPointOpened
  | .decisionPointDiscussing _ => .decisionPointDiscussing
  | .decisionPointResolved _ => .decisionPointResolved
  | .decisionPointOverridden _ => .decisionPointOverridden
  | .connectorProvisioned _ => .connectorProvisioned
  | .connectorHealthChecked _ => .connectorHealthChecked
  | .connectorDegraded _ => .connectorDegraded
  | .connectorRecovered _ => .connectorRecovered
  | .connectorRevoked _ => .connectorRevoked
  | .connectorDecommissioned _ => .connectorDecommissioned
  | .syncIngestAccepted _ => .syncIngestAccepted
  | .syncIngestRejected _ => .syncIngestRejected
  | .syncRetryScheduled _ => .syncRetryScheduled
  | .syncDeadLettered _ => .syncDeadLettered
  | .missionRunStarted _ => .missionRunStarted
  | .nextStepIssued _ => .nextStepIssued
  | .nextStepAutoCompleted _ => .nextStepAutoCompleted
  | .decisionInputRequested _ => .decisionInputRequested
  | .decisionInputAnswered _ => .decisionInputAnswered
  | .missionRunCompleted _ => .missionRunCompleted
  | .participantInvited _ => .participantInvited
  | .participantJoined _ => .participantJoined
  | .participantLeft _ => .participantLeft
  | .driveIntentSet _ => .driveIntentSet
  | .focusChanged _ => .focusChanged
  | .commentPosted _ => .commentPosted
  | .warningRaised _ => .warningRaised
  | .warningAcknowledged _ => .warningAcknowledged
  | .glossaryScopeActivated _ => .glossaryScopeActivated
  | .glossaryStrictnessSet _ => .glossaryStrictnessSet
  | .termCandidateObserved _ => .termCandidateObserved
  | .glossarySenseUpdated _ => .glossarySenseUpdated
  | .glossaryClarificationRequested _ => .glossaryClarificationRequested
  | .glossaryClarificationResolved _ => .glossaryClarificationResolved
  | .semanticCheckEvaluated _ => .semanticCheckEvaluated
  | .generationBlockedBySemanticConflict _ => .generationBlockedBySemanticConflict

def decode : Kind → Decoder Payload
  | .wpStatusChanged, v => (WpStatusChanged.record.decode v).map .wpStatusChanged
  | .missionCreated, v => (MissionCreated.record.decode v).map .missionCreated
  | .missionStarted, v => (MissionStarted.record.decode v).map .missionStarted
  | .phaseEntered, v => (PhaseEntered.record.decode v).map .phaseEntered
  | .missionPaused, v => (MissionPaused.record.decode v).map .missionPaused
  | .missionResumed, v => (MissionResumed.record.decode v).map .missionResumed
  | .missionCompleted, v => (MissionCompleted.record.decode v).map .missionCompleted
  | .missionCancelled, v => (MissionCancelled.record.decode v).map .missionCancelled
  | .missionAuditRequested, v => (MissionAuditRequested.record.decode v).map .missionAuditRequested
  | .missionAuditStarted, v => (MissionAuditStarted.record.decode v).map .missionAuditStarted
  | .missionAuditDecisionRequested, v => (MissionAuditDecisionRequested.record.decode v).map .missionAuditDecisionRequested
  | .missionAuditCompleted, v => (MissionAuditCompleted.record.decode v).map .missionAuditCompleted
  | .missionAuditFailed, v => (MissionAuditFailed.record.decode v).map .missionAuditFailed
  | .decisionPointOpened, v => (DecisionPointOpened.record.decode v).map .decisionPointOpened
  | .decisionPointDiscussing, v => (DecisionPointDiscussing.record.decode v).map .decisionPointDiscussing
  | .decisionPointResolved, v => (DecisionPointResolved.record.decode v).map .decisionPointResolved
  | .decisionPointOverridden, v => (DecisionPointOverridden.record.decode v).map .decisionPointOverridden
  | .connectorProvisioned, v => (ConnectorProvisioned.record.decode v).map .connectorProvisioned
  | .connectorHealthChecked, v => (ConnectorHealthChecked.record.decode v).map .connectorHealthChecked
  | .connectorDegraded, v => (ConnectorDegraded.record.decode v).map .connectorDegraded
  | .connectorRecovered, v => (ConnectorRecovered.record.decode v).map .connectorRecovered
  | .connectorRevoked, v => (ConnectorRevoked.record.decode v).map .connectorRevoked
  | .connectorDecommissioned, v => (ConnectorDecommissioned.record.decode v).map .connectorDecommissioned
  | .syncIngestAccepted, v => (SyncIngestAccepted.record.decode v).map .syncIngestAccepted
  | .syncIngestRejected, v => (SyncIngestRejected.record.decode v).map .syncIngestRejected
  | .syncRetryScheduled, v => (SyncRetryScheduled.record.decode v).map .syncRetryScheduled
  | .syncDeadLettered, v => (SyncDeadLettered.record.decode v).map .syncDeadLettered
  | .missionRunStarted, v => (MissionRunStarted.record.decode v).map .missionRunStarted
  | .nextStepIssued, v => (NextStepIssued.record.decode v).map .nextStepIssued
  | .nextStepAutoCompleted, v => (NextStepAutoCompleted.record.decode v).map .nextStepAutoCompleted
  | .decisionInputRequested, v => (DecisionInputRequested.record.decode v).map .decisionInputRequested
  | .decisionInputAnswered, v => (DecisionInputAnswered.record.decode v).map .decisionInputAnswered
  | .missionRunCompleted, v => (MissionRunCompleted.record.decode v).map .missionRunCompleted
  | .participantInvited, v => (ParticipantInvited.record.decode v).map .participantInvited
  | .participantJoined, v => (ParticipantJoined.record.decode v).map .participantJoined
  | .participantLeft, v => (ParticipantLeft.record.decode v).map .participantLeft
  | .driveIntentSet, v => (DriveIntentSet.record.decode v).map .driveIntentSet
  | .focusChanged, v => (FocusChanged.record.decode v).map .focusChanged
  | .commentPosted, v => (CommentPosted.record.decode v).map .commentPosted
  | .warningRaised, v => (WarningRaised.record.decode v).map .warningRaised
  | .warningAcknowledged, v => (WarningAcknowledged.record.decode v).map .warningAcknowledged
  | .glossaryScopeActivated, v => (GlossaryScopeActivated.record.decode v).map .glossaryScopeActivated
  | .glossaryStrictnessSet, v => (GlossaryStrictnessSet.record.decode v).map .glossaryStrictnessSet
  | .termCandidateObserved, v => (TermCandidateObserved.record.decode v).map .termCandidateObserved
  | .glossarySenseUpdated, v => (GlossarySenseUpdated.record.decode v).map .glossarySenseUpdated
  | .glossaryClarificationRequested, v => (GlossaryClarificationRequested.record.decode v).map .glossaryClarificationRequested
  | .glossaryClarificationResolved, v => (GlossaryClarificationResolved.record.decode v).map .glossaryClarificationResolved
  | .semanticCheckEvaluated, v => (SemanticCheckEvaluated.record.decode v).map .semanticCheckEvaluated
  | .generationBlockedBySemanticConflict, v => (GenerationBlockedBySemanticConflict.record.decode v).map .generationBlockedBySemanticConflict

def toJson : Payload → Json
  | .wpStatusChanged p => p.toJson
  | .missionCreated p => p.toJson
  | .missionStarted p => p.toJson
  | .phaseEntered p => p.toJson
  | .missionPaused p => p.toJson
  | .missionResumed p => p.toJson
  | .missionCompleted p => p.toJson
  | .missionCancelled p => p.toJson
  | .missionAuditRequested p => p.toJson
  | .missionAuditStarted p => p.toJson
  | .missionAuditDecisionRequested p => p.toJson
  | .missionAuditCompleted p => p.toJson
  | .missionAuditFailed p => p.toJson
  | .decisionPointOpened p => p.toJson
  | .decisionPointDiscussing p => p.toJson
  | .decisionPointResolved p => p.toJson
  | .decisionPointOverridden p => p.toJson
  | .connectorProvisioned p => p.toJson
  | .connectorHealthChecked p => p.toJson
  | .connectorDegraded p => p.toJson
  | .connectorRecovered p => p.toJson
  | .connectorRevoked p => p.toJson
  | .connectorDecommissioned p => p.toJson
  | .syncIngestAccepted p => p.toJson
  | .syncIngestRejected p => p.toJson
  | .syncRetryScheduled p => p.toJson
  | .syncDeadLettered p => p.toJson
  | .missionRunStarted p => p.toJson
  | .nextStepIssued p => p.toJson
  | .nextStepAutoCompleted p => p.toJson
  | .decisionInputRequested p => p.toJson
  | .decisionInputAnswered p => p.toJson
  | .missionRunCompleted p => p.toJson
  | .participantInvited p => p.toJson
  | .participantJoined p => p.toJson
  | .participantLeft p => p.toJson
  | .driveIntentSet p => p.toJson
  | .focusChanged p => p.toJson
  | .commentPosted p => p.toJson
  | .warningRaised p => p.toJson
  | .warningAcknowledged p => p.toJson
  | .glossaryScopeActivated p => p.toJson
  | .glossaryStrictnessSet p => p.toJson
  | .termCandidateObserved p => p.toJson
  | .glossarySenseUpdated p => p.toJson
  | .glossaryClarificationRequested p => p.toJson
  | .glossaryClarificationResolved p => p.toJson
  | .semanticCheckEvaluated p => p.toJson
  | .generationBlockedBySemanticConflict p => p.toJson

end Payload
end EventLedger
