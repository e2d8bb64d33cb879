import EventLedger.Event.Basic

namespace EventLedger

inductive AnomalyKind where
  | eventBeforeRequested
  | eventBeforeCreated
  | eventBeforeOpened
  | eventBeforeProvisioned
  | eventBeforeRunStarted
  | eventAfterTerminal
  | invalidTransition
  | fromLaneMismatch
  | forceWithoutReason
  | supersededByRollback
  | duplicateDecisionId
  | unknownDecision
  | duplicateStart
  | invalidOption
  | stepMismatch
  | retryWithoutRejection
  | attemptRegression
  | unknownParticipant
  | participantNotJoined
  | unknownWarning
  | scopeNotActive
  | duplicateClarificationId
  | unknownClarification
  | malformedPayload
  | unrecognizedEventType
deriving DecidableEq, Repr

def AnomalyKind.name : AnomalyKind → String
  | .eventBeforeRequested => "event_before_requested"
  | .eventBeforeCreated => "event_before_created"
  | .eventBeforeOpened => "event_before_opened"
  | .eventBeforeProvisioned => "event_before_provisioned"
  | .eventBeforeRunStarted => "event_before_run_started"
  | .eventAfterTerminal => "event_after_terminal"
  | .invalidTransition => "invalid_transition"
  | .fromLaneMismatch => "from_lane_mismatch"
  | .forceWithoutReason => "force_without_reason"
  | .supersededByRollback => "superseded_by_rollback"
  | .duplicateDecisionId => "duplicate_decision_id"
  | .unknownDecision => "unknown_decision"
  | .duplicateStart => "duplicate_start"
  | .invalidOption => "invalid_option"
  | .stepMismatch => "step_mismatch"
  | .retryWithoutRejection => "retry_without_rejection"
  | .attemptRegression => "attempt_regression"
  | .unknownParticipant => "unknown_participant"
  | .participantNotJoined => "participant_not_joined"
  | .unknownWarning => "unknown_warning"
  | .scopeNotActive => "scope_not_active"
  | .duplicateClarificationId => "duplicate_clarification_id"
  | .unknownClarification => "unknown_clarification"
  | .malformedPayload => "malformed_payload"
  | .unrecognizedEventType => "unrecognized_event_type"

structure Finding where
  kind : AnomalyKind
  message : String
deriving DecidableEq, Repr

structure Anomaly where
  kind : AnomalyKind
  eventId : EventId
  message : String
deriving DecidableEq, Repr

namespace Anomaly

def about (e : Event) (f : Finding) : Anomaly := ⟨f.kind, e.id, f.message⟩

def toJson (a : Anomaly) : Json :=
  .object [("kind", .string a.kind.name), ("event_id", .string a.eventId.text),
    ("message", .string a.message)]

end Anomaly
end EventLedger
