import EventLedger.Payload
import EventLedger.Proofs.Json.Settling
import Mathlib

/-! Payloads of every kind settle: what was written for a payload is decoded as that payload, whatever
it was decoded from. -/

namespace EventLedger

open Decoder

theorem Text.toList_canonicalName (s : String) :
    (canonicalName s).toList =
      (trimRight (trimLeft s.toList)).map fun c => if c = '-' then '_' else c.toLower := by
  simp [canonicalName, trim]

theorem Lane.canonicalName_name (l : Lane) : Text.canonicalName l.name = l.name := by
  rw [← String.toList_inj, Text.toList_canonicalName]
  cases l <;> decide

theorem Lane.ofName?_name (l : Lane) : ofName? l.name = some l := by
  rw [ofName?, canonicalName_name]
  cases l <;> rfl

/-- A lane is read by many names, and written by its own. -/
theorem Lane.settles : decoder.Settles toJson where
  again {_ l} _ := by
    rw [toJson, decoder, Decoder.string, ok_bind, ofName?_name]
  present _ := nofun

theorem AuditVerdict.settles : decoder.Settles toJson :=
  choice_settles fun v => by cases v <;> rfl

theorem AuditSeverity.settles : decoder.Settles toJson :=
  choice_settles fun s => by cases s <;> rfl

theorem StepResult.settles : decoder.Settles toJson :=
  choice_settles fun r => by cases r <;> rfl

theorem DriveIntent.settles : decoder.Settles toJson :=
  choice_settles fun i => by cases i <;> rfl

theorem Strictness.settles : decoder.Settles toJson :=
  choice_settles fun s => by cases s <;> rfl

theorem CheckOutcome.settles : decoder.Settles toJson :=
  choice_settles fun o => by cases o <;> rfl

namespace Payload

/-! Work packages -/

theorem WpStatusChanged.settles : record.Settles toJson where
  distinct := by decide
  remakes :=
    .optional string_settles <| .optional string_settles <| .optional string_settles <|
      .defaulted boolean_settles rfl <| .required string_settles <| .required Lane.settles <|
      .required Lane.settles <| .required string_settles <| .required string_settles <|
      .of fun _ _ _ _ _ _ _ _ _ => rfl

/-! Missions -/

theorem MissionCreated.settles : record.Settles toJson where
  distinct := by decide
  remakes :=
    .optional string_settles <| .optional string_settles <| .required string_settles <|
      .of fun _ _ _ => rfl

theorem MissionStarted.settles : record.Settles toJson where
  distinct := by decide
  remakes :=
    .optional string_settles <| .of fun _ => rfl

theorem PhaseEntered.settles : record.Settles toJson where
  distinct := by decide
  remakes :=
    .required string_settles <| .of fun _ => rfl

theorem MissionPaused.settles : record.Settles toJson where
  distinct := by decide
  remakes :=
    .optional string_settles <| .of fun _ => rfl

theorem MissionResumed.settles : record.Settles toJson where
  distinct := by decide
  remakes :=
    .optional string_settles <| .of fun _ => rfl

theorem MissionCompleted.settles : record.Settles toJson where
  distinct := by decide
  remakes :=
    .optional string_settles <| .of fun _ => rfl

theorem MissionCancelled.settles : record.Settles toJson where
  distinct := by decide
  remakes :=
    .optional string_settles <| .of fun _ => rfl

/-! Audits -/

theorem MissionAuditRequested.settles : record.Settles toJson where
  distinct := by decide
  remakes :=
    .optional string_settles <| .optional string_settles <| .of fun _ _ => rfl

theorem MissionAuditStarted.settles : record.Settles toJson where
  distinct := by decide
  remakes :=
    .defaulted strings_settles rfl <| .of fun _ => rfl

theorem MissionAuditDecisionRequested.settles : record.Settles toJson where
  distinct := by decide
  remakes :=
    .defaulted strings_settles rfl <| .defaulted string_settles rfl <| .required string_settles <|
      .of fun _ _ _ => rfl

theorem MissionAuditCompleted.settles : record.Settles toJson where
  distinct := by decide
  remakes :=
    .optional string_settles <| .optional string_settles <|
      .defaulted (natural_settles _ _) rfl <| .optional AuditSeverity.settles <|
      .required AuditVerdict.settles <| .of fun _ _ _ _ _ => rfl

theorem MissionAuditFailed.settles : record.Settles toJson where
  distinct := by decide
  remakes :=
    .optional string_settles <| .defaulted string_settles rfl <| .required string_settles <|
      .of fun _ _ _ => rfl

/-! Decision points -/

theorem DecisionPointOpened.settles : record.Settles toJson where
  distinct := by decide
  remakes :=
    .optional string_settles <| .defaulted strings_settles rfl <| .defaulted string_settles rfl <|
      .required string_settles <| .of fun _ _ _ _ => rfl

theorem DecisionPointDiscussing.settles : record.Settles toJson where
  distinct := by decide
  remakes :=
    .optional string_settles <| .required string_settles <| .of fun _ _ => rfl

theorem DecisionPointResolved.settles : record.Settles toJson where
  distinct := by decide
  remakes :=
    .optional string_settles <| .optional string_settles <| .required string_settles <|
      .required string_settles <| .of fun _ _ _ _ => rfl

theorem DecisionPointOverridden.settles : record.Settles toJson where
  distinct := by decide
  remakes :=
    .optional string_settles <| .optional string_settles <| .required string_settles <|
      .required string_settles <| .of fun _ _ _ _ => rfl

/-! Connectors -/

theorem ConnectorProvisioned.settles : record.Settles toJson where
  distinct := by decide
  remakes :=
    .defaulted strings_settles rfl <| .required string_settles <| .required string_settles <|
      .of fun _ _ _ => rfl

theorem ConnectorHealthChecked.settles : record.Settles toJson where
  distinct := by decide
  remakes :=
    .optional (natural_settles _ _) <| .required boolean_settles <| .required string_settles <|
      .of fun _ _ _ => rfl

theorem ConnectorDegraded.settles : record.Settles toJson where
  distinct := by decide
  remakes :=
    .optional string_settles <| .required string_settles <| .of fun _ _ => rfl

theorem ConnectorRecovered.settles : record.Settles toJson where
  distinct := by decide
  remakes :=
    .required string_settles <| .of fun _ => rfl

theorem ConnectorRevoked.settles : record.Settles toJson where
  distinct := by decide
  remakes :=
    .optional string_settles <| .required string_settles <| .of fun _ _ => rfl

theorem ConnectorDecommissioned.settles : record.Settles toJson where
  distinct := by decide
  remakes :=
    .required string_settles <| .of fun _ => rfl

/-! Deliveries -/

theorem SyncIngestAccepted.settles : record.Settles toJson where
  distinct := by decide
  remakes :=
    .defaulted (natural_settles _ _) rfl <| .required string_settles <| .of fun _ _ => rfl

theorem SyncIngestRejected.settles : record.Settles toJson where
  distinct := by decide
  remakes :=
    .defaulted boolean_settles rfl <| .defaulted string_settles rfl <| .required string_settles <|
      .of fun _ _ _ => rfl

theorem SyncRetryScheduled.settles : record.Settles toJson where
  distinct := by decide
  remakes :=
    .optional (natural_settles _ _) <| .required (natural_settles _ _) <|
      .required string_settles <| .of fun _ _ _ => rfl

theorem SyncDeadLettered.settles : record.Settles toJson where
  distinct := by decide
  remakes :=
    .defaulted (natural_settles _ _) rfl <| .defaulted string_settles rfl <|
      .required string_settles <| .of fun _ _ _ => rfl

/-! Runs -/

theorem MissionRunStarted.settles : record.Settles toJson where
  distinct := by decide
  remakes :=
    .optional string_settles <| .required string_settles <| .of fun _ _ => rfl

theorem NextStepIssued.settles : record.Settles toJson where
  distinct := by decide
  remakes :=
    .defaulted string_settles rfl <| .required string_settles <| .of fun _ _ => rfl

theorem NextStepAutoCompleted.settles : record.Settles toJson where
  distinct := by decide
  remakes :=
    .required StepResult.settles <| .required string_settles <| .of fun _ _ => rfl

theorem DecisionInputRequested.settles : record.Settles toJson where
  distinct := by decide
  remakes :=
    .optional string_settles <| .defaulted strings_settles rfl <| .defaulted string_settles rfl <|
      .required string_settles <| .of fun _ _ _ _ => rfl

theorem DecisionInputAnswered.settles : record.Settles toJson where
  distinct := by decide
  remakes :=
    .optional string_settles <| .required string_settles <| .required string_settles <|
      .of fun _ _ _ => rfl

theorem MissionRunCompleted.settles : record.Settles toJson where
  distinct := by decide
  remakes :=
    .optional string_settles <| .of fun _ => rfl

/-! Sessions -/

theorem ParticipantInvited.settles : record.Settles toJson where
  distinct := by decide
  remakes :=
    .optional string_settles <| .optional string_settles <| .required string_settles <|
      .of fun _ _ _ => rfl

theorem ParticipantJoined.settles : record.Settles toJson where
  distinct := by decide
  remakes :=
    .optional string_settles <| .required string_settles <| .of fun _ _ => rfl

theorem ParticipantLeft.settles : record.Settles toJson where
  distinct := by decide
  remakes :=
    .optional string_settles <| .required string_settles <| .of fun _ _ => rfl

theorem DriveIntentSet.settles : record.Settles toJson where
  distinct := by decide
  remakes :=
    .required DriveIntent.settles <| .required string_settles <| .of fun _ _ => rfl

theorem FocusChanged.settles : record.Settles toJson where
  distinct := by decide
  remakes :=
    .required string_settles <| .required string_settles <| .of fun _ _ => rfl

theorem CommentPosted.settles : record.Settles toJson where
  distinct := by decide
  remakes :=
    .defaulted string_settles rfl <| .required string_settles <| .required string_settles <|
      .of fun _ _ _ => rfl

theorem WarningRaised.settles : record.Settles toJson where
  distinct := by decide
  remakes :=
    .optional string_settles <| .defaulted string_settles rfl <| .required string_settles <|
      .of fun _ _ _ => rfl

theorem WarningAcknowledged.settles : record.Settles toJson where
  distinct := by decide
  remakes :=
    .required string_settles <| .required string_settles <| .of fun _ _ => rfl

/-! Glossaries -/

theorem GlossaryScopeActivated.settles : record.Settles toJson where
  distinct := by decide
  remakes :=
    .optional string_settles <| .required string_settles <| .of fun _ _ => rfl

theorem GlossaryStrictnessSet.settles : record.Settles toJson where
  distinct := by decide
  remakes :=
    .required Strictness.settles <| .of fun _ => rfl

theorem TermCandidateObserved.settles : record.Settles toJson where
  distinct := by decide
  remakes :=
    .optional string_settles <| .required string_settles <| .required string_settles <|
      .of fun _ _ _ => rfl

theorem GlossarySenseUpdated.settles : record.Settles toJson where
  distinct := by decide
  remakes :=
    .defaulted string_settles rfl <| .required string_settles <| .required string_settles <|
      .required string_settles <| .of fun _ _ _ _ => rfl

theorem GlossaryClarificationRequested.settles : record.Settles toJson where
  distinct := by decide
  remakes :=
    .defaulted string_settles rfl <| .required string_settles <| .required string_settles <|
      .of fun _ _ _ => rfl

theorem GlossaryClarificationResolved.settles : record.Settles toJson where
  distinct := by decide
  remakes :=
    .optional string_settles <| .optional string_settles <| .required string_settles <|
      .of fun _ _ _ => rfl

theorem SemanticCheckEvaluated.settles : record.Settles toJson where
  distinct := by decide
  remakes :=
    .defaulted strings_settles rfl <| .required CheckOutcome.settles <|
      .required string_settles <| .of fun _ _ _ => rfl

theorem GenerationBlockedBySemanticConflict.settles : record.Settles toJson where
  distinct := by decide
  remakes :=
    .defaulted strings_settles rfl <| .required string_settles <| .of fun _ _ => rfl

/-- A payload of one kind that settles, as a payload of the catalog. -/
theorem decode_settled {α : Type} {k : Kind} {r : Record α} {write : α → Json}
    (settles : r.Settles write) {make : α → Payload} {v : Json} {p : Payload}
    (h : (r.decode v).map make = .ok p)
    (same : ∀ x, (make x).kind = k ∧
      decode k (make x).toJson = (r.decode (write x)).map make) :
    p.kind = k ∧ decode k p.toJson = .ok p := by
  obtain ⟨x, decoded, rfl⟩ := map_eq_ok.mp h
  obtain ⟨kind, again⟩ := same x
  refine ⟨kind, ?_⟩
  rw [again, settles.decode decoded]
  rfl

theorem decode_again {k : Kind} {v : Json} {p : Payload} (h : decode k v = .ok p) :
    p.kind = k ∧ decode k p.toJson = .ok p := by
  cases k with
  | wpStatusChanged => exact decode_settled WpStatusChanged.settles h fun _ => ⟨rfl, rfl⟩
  | missionCreated => exact decode_settled MissionCreated.settles h fun _ => ⟨rfl, rfl⟩
  | missionStarted => exact decode_settled MissionStarted.settles h fun _ => ⟨rfl, rfl⟩
  | phaseEntered => exact decode_settled PhaseEntered.settles h fun _ => ⟨rfl, rfl⟩
  | missionPaused => exact decode_settled MissionPaused.settles h fun _ => ⟨rfl, rfl⟩
  | missionResumed => exact decode_settled MissionResumed.settles h fun _ => ⟨rfl, rfl⟩
  | missionCompleted => exact decode_settled MissionCompleted.settles h fun _ => ⟨rfl, rfl⟩
  | missionCancelled => exact decode_settled MissionCancelled.settles h fun _ => ⟨rfl, rfl⟩
  | missionAuditRequested =>
    exact decode_settled MissionAuditRequested.settles h fun _ => ⟨rfl, rfl⟩
  | missionAuditStarted => exact decode_settled MissionAuditStarted.settles h fun _ => ⟨rfl, rfl⟩
  | missionAuditDecisionRequested =>
    exact decode_settled MissionAuditDecisionRequested.settles h fun _ => ⟨rfl, rfl⟩
  | missionAuditCompleted =>
    exact decode_settled MissionAuditCompleted.settles h fun _ => ⟨rfl, rfl⟩
  | missionAuditFailed => exact decode_settled MissionAuditFailed.settles h fun _ => ⟨rfl, rfl⟩
  | decisionPointOpened => exact decode_settled DecisionPointOpened.settles h fun _ => ⟨rfl, rfl⟩
  | decisionPointDiscussing =>
    exact decode_settled DecisionPointDiscussing.settles h fun _ => ⟨rfl, rfl⟩
  | decisionPointResolved =>
    exact decode_settled DecisionPointResolved.settles h fun _ => ⟨rfl, rfl⟩
  | decisionPointOverridden =>
    exact decode_settled DecisionPointOverridden.settles h fun _ => ⟨rfl, rfl⟩
  | connectorProvisioned => exact decode_settled ConnectorProvisioned.settles h fun _ => ⟨rfl, rfl⟩
  | connectorHealthChecked =>
    exact decode_settled ConnectorHealthChecked.settles h fun _ => ⟨rfl, rfl⟩
  | connectorDegraded => exact decode_settled ConnectorDegraded.settles h fun _ => ⟨rfl, rfl⟩
  | connectorRecovered => exact decode_settled ConnectorRecovered.settles h fun _ => ⟨rfl, rfl⟩
  | connectorRevoked => exact decode_settled ConnectorRevoked.settles h fun _ => ⟨rfl, rfl⟩
  | connectorDecommissioned =>
    exact decode_settled ConnectorDecommissioned.settles h fun _ => ⟨rfl, rfl⟩
  | syncIngestAccepted => exact decode_settled SyncIngestAccepted.settles h fun _ => ⟨rfl, rfl⟩
  | syncIngestRejected => exact decode_settled SyncIngestRejected.settles h fun _ => ⟨rfl, rfl⟩
  | syncRetryScheduled => exact decode_settled SyncRetryScheduled.settles h fun _ => ⟨rfl, rfl⟩
  | syncDeadLettered => exact decode_settled SyncDeadLettered.settles h fun _ => ⟨rfl, rfl⟩
  | missionRunStarted => exact decode_settled MissionRunStarted.settles h fun _ => ⟨rfl, rfl⟩
  | nextStepIssued => exact decode_settled NextStepIssued.settles h fun _ => ⟨rfl, rfl⟩
  | nextStepAutoCompleted =>
    exact decode_settled NextStepAutoCompleted.settles h fun _ => ⟨rfl, rfl⟩
  | decisionInputRequested =>
    exact decode_settled DecisionInputRequested.settles h fun _ => ⟨rfl, rfl⟩
  | decisionInputAnswered =>
    exact decode_settled DecisionInputAnswered.settles h fun _ => ⟨rfl, rfl⟩
  | missionRunCompleted => exact decode_settled MissionRunCompleted.settles h fun _ => ⟨rfl, rfl⟩
  | participantInvited => exact decode_settled ParticipantInvited.settles h fun _ => ⟨rfl, rfl⟩
  | participantJoined => exact decode_settled ParticipantJoined.settles h fun _ => ⟨rfl, rfl⟩
  | participantLeft => exact decode_settled ParticipantLeft.settles h fun _ => ⟨rfl, rfl⟩
  | driveIntentSet => exact decode_settled DriveIntentSet.settles h fun _ => ⟨rfl, rfl⟩
  | focusChanged => exact decode_settled FocusChanged.settles h fun _ => ⟨rfl, rfl⟩
  | commentPosted => exact decode_settled CommentPosted.settles h fun _ => ⟨rfl, rfl⟩
  | warningRaised => exact decode_settled WarningRaised.settles h fun _ => ⟨rfl, rfl⟩
  | warningAcknowledged => exact decode_settled WarningAcknowledged.settles h fun _ => ⟨rfl, rfl⟩
  | glossaryScopeActivated =>
    exact decode_settled GlossaryScopeActivated.settles h fun _ => ⟨rfl, rfl⟩
  | glossaryStrictnessSet =>
    exact decode_settled GlossaryStrictnessSet.settles h fun _ => ⟨rfl, rfl⟩
  | termCandidateObserved =>
    exact decode_settled TermCandidateObserved.settles h fun _ => ⟨rfl, rfl⟩
  | glossarySenseUpdated => exact decode_settled GlossarySenseUpdated.settles h fun _ => ⟨rfl, rfl⟩
  | glossaryClarificationRequested =>
    exact decode_settled GlossaryClarificationRequested.settles h fun _ => ⟨rfl, rfl⟩
  | glossaryClarificationResolved =>
    exact decode_settled GlossaryClarificationResolved.settles h fun _ => ⟨rfl, rfl⟩
  | semanticCheckEvaluated =>
    exact decode_settled SemanticCheckEvaluated.settles h fun _ => ⟨rfl, rfl⟩
  | generationBlockedBySemanticConflict =>
    exact decode_settled GenerationBlockedBySemanticConflict.settles h fun _ => ⟨rfl, rfl⟩

/-- A list of fields, with lanes in other spellings, settles as an object with every field. -/
theorem decode_again_spellings :
    let v : Json := .array [.string "slug", .string "WP01", .string " Doing ", .string "cancelled",
      .string "agent"]
    let p : Payload := .wpStatusChanged
      ⟨"slug", "WP01", .inProgress, .canceled, "agent", false, none, none, none⟩
    decode .wpStatusChanged v = .ok p ∧ decode .wpStatusChanged p.toJson = .ok p := by
  intro v p
  have decoded : decode .wpStatusChanged v = .ok p := by cbv
  exact ⟨decoded, (decode_again decoded).2⟩

end Payload
end EventLedger
