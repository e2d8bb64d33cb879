import EventLedger.Proofs.Validation.Reasons

/-! The fields of the payloads of each kind. A payload is refused for a value in it, or for want of a
field that its kind requires. -/

namespace EventLedger

open Decoder

theorem AuditVerdict.decoder_plain : decoder.Plain := choice_plain (by decide +kernel)

theorem AuditSeverity.decoder_plain : decoder.Plain := choice_plain (by decide +kernel)

theorem StepResult.decoder_plain : decoder.Plain := choice_plain (by decide +kernel)

theorem DriveIntent.decoder_plain : decoder.Plain := choice_plain (by decide +kernel)

theorem Strictness.decoder_plain : decoder.Plain := choice_plain (by decide +kernel)

theorem CheckOutcome.decoder_plain : decoder.Plain := choice_plain (by decide +kernel)

namespace Payload

/-- The record that payloads of a kind are decoded by. -/
structure Form (k : Kind) where
  {type : Type}
  record : Record type
  make : type → Payload
  decodes : ∀ v, decode k v = (record.decode v).map make
  candid : record.Candid

def form : (k : Kind) → Form k
  | .wpStatusChanged =>
    ⟨WpStatusChanged.record, .wpStatusChanged, fun _ => rfl,
      .optional string_plain <| .optional string_plain <| .optional string_plain <|
        .defaulted boolean_plain <| .required string_plain <| .required Lane.decoder_plain <|
        .required Lane.decoder_plain <| .required string_plain <| .required string_plain <| .of⟩
  | .missionCreated =>
    ⟨MissionCreated.record, .missionCreated, fun _ => rfl,
      .optional string_plain <| .optional string_plain <| .required string_plain <| .of⟩
  | .missionStarted =>
    ⟨MissionStarted.record, .missionStarted, fun _ => rfl, .optional string_plain <| .of⟩
  | .phaseEntered =>
    ⟨PhaseEntered.record, .phaseEntered, fun _ => rfl, .required string_plain <| .of⟩
  | .missionPaused =>
    ⟨MissionPaused.record, .missionPaused, fun _ => rfl, .optional string_plain <| .of⟩
  | .missionResumed =>
    ⟨MissionResumed.record, .missionResumed, fun _ => rfl, .optional string_plain <| .of⟩
  | .missionCompleted =>
    ⟨MissionCompleted.record, .missionCompleted, fun _ => rfl, .optional string_plain <| .of⟩
  | .missionCancelled =>
    ⟨MissionCancelled.record, .missionCancelled, fun _ => rfl, .optional string_plain <| .of⟩
  | .missionAuditRequested =>
    ⟨MissionAuditRequested.record, .missionAuditRequested, fun _ => rfl,
      .optional string_plain <| .optional string_plain <| .of⟩
  | .missionAuditStarted =>
    ⟨MissionAuditStarted.record, .missionAuditStarted, fun _ => rfl,
      .defaulted strings_plain <| .of⟩
  | .missionAuditDecisionRequested =>
    ⟨MissionAuditDecisionRequested.record, .missionAuditDecisionRequested, fun _ => rfl,
      .defaulted strings_plain <| .defaulted string_plain <| .required string_plain <| .of⟩
  | .missionAuditCompleted =>
    ⟨MissionAuditCompleted.record, .missionAuditCompleted, fun _ => rfl,
      .optional string_plain <| .optional string_plain <| .defaulted word32_plain <|
        .optional AuditSeverity.decoder_plain <| .required AuditVerdict.decoder_plain <| .of⟩
  | .missionAuditFailed =>
    ⟨MissionAuditFailed.record, .missionAuditFailed, fun _ => rfl,
      .optional string_plain <| .defaulted string_plain <| .required string_plain <| .of⟩
  | .decisionPointOpened =>
    ⟨DecisionPointOpened.record, .decisionPointOpened, fun _ => rfl,
      .optional string_plain <| .defaulted strings_plain <| .defaulted string_plain <|
        .required string_plain <| .of⟩
  | .decisionPointDiscussing =>
    ⟨DecisionPointDiscussing.record, .decisionPointDiscussing, fun _ => rfl,
      .optional string_plain <| .required string_plain <| .of⟩
  | .decisionPointResolved =>
    ⟨DecisionPointResolved.record, .decisionPointResolved, fun _ => rfl,
      .optional string_plain <| .optional string_plain <| .required string_plain <|
        .required string_plain <| .of⟩
  | .decisionPointOverridden =>
    ⟨DecisionPointOverridden.record, .decisionPointOverridden, fun _ => rfl,
      .optional string_plain <| .optional string_plain <| .required string_plain <|
        .required string_plain <| .of⟩
  | .connectorProvisioned =>
    ⟨ConnectorProvisioned.record, .connectorProvisioned, fun _ => rfl,
      .defaulted strings_plain <| .required string_plain <| .required string_plain <| .of⟩
  | .connectorHealthChecked =>
    ⟨ConnectorHealthChecked.record, .connectorHealthChecked, fun _ => rfl,
      .optional word64_plain <| .required boolean_plain <| .required string_plain <| .of⟩
  | .connectorDegraded =>
    ⟨ConnectorDegraded.record, .connectorDegraded, fun _ => rfl,
      .optional string_plain <| .required string_plain <| .of⟩
  | .connectorRecovered =>
    ⟨ConnectorRecovered.record, .connectorRecovered, fun _ => rfl, .required string_plain <| .of⟩
  | .connectorRevoked =>
    ⟨ConnectorRevoked.record, .connectorRevoked, fun _ => rfl,
      .optional string_plain <| .required string_plain <| .of⟩
  | .connectorDecommissioned =>
    ⟨ConnectorDecommissioned.record, .connectorDecommissioned, fun _ => rfl,
      .required string_plain <| .of⟩
  | .syncIngestAccepted =>
    ⟨SyncIngestAccepted.record, .syncIngestAccepted, fun _ => rfl,
      .defaulted word32_plain <| .required string_plain <| .of⟩
  | .syncIngestRejected =>
    ⟨SyncIngestRejected.record, .syncIngestRejected, fun _ => rfl,
      .defaulted boolean_plain <| .defaulted string_plain <| .required string_plain <| .of⟩
  | .syncRetryScheduled =>
    ⟨SyncRetryScheduled.record, .syncRetryScheduled, fun _ => rfl,
      .optional word64_plain <| .required word32_plain <| .required string_plain <| .of⟩
  | .syncDeadLettered =>
    ⟨SyncDeadLettered.record, .syncDeadLettered, fun _ => rfl,
      .defaulted word32_plain <| .defaulted string_plain <| .required string_plain <| .of⟩
  | .missionRunStarted =>
    ⟨MissionRunStarted.record, .missionRunStarted, fun _ => rfl,
      .optional string_plain <| .required string_plain <| .of⟩
  | .nextStepIssued =>
    ⟨NextStepIssued.record, .nextStepIssued, fun _ => rfl,
      .defaulted string_plain <| .required string_plain <| .of⟩
  | .nextStepAutoCompleted =>
    ⟨NextStepAutoCompleted.record, .nextStepAutoCompleted, fun _ => rfl,
      .required StepResult.decoder_plain <| .required string_plain <| .of⟩
  | .decisionInputRequested =>
    ⟨DecisionInputRequested.record, .decisionInputRequested, fun _ => rfl,
      .optional string_plain <| .defaulted strings_plain <| .defaulted string_plain <|
        .required string_plain <| .of⟩
  | .decisionInputAnswered =>
    ⟨DecisionInputAnswered.record, .decisionInputAnswered, fun _ => rfl,
      .optional string_plain <| .required string_plain <| .required string_plain <| .of⟩
  | .missionRunCompleted =>
    ⟨MissionRunCompleted.record, .missionRunCompleted, fun _ => rfl, .optional string_plain <| .of⟩
  | .participantInvited =>
    ⟨ParticipantInvited.record, .participantInvited, fun _ => rfl,
      .optional string_plain <| .optional string_plain <| .required string_plain <| .of⟩
  | .participantJoined =>
    ⟨ParticipantJoined.record, .participantJoined, fun _ => rfl,
      .optional string_plain <| .required string_plain <| .of⟩
  | .participantLeft =>
    ⟨ParticipantLeft.record, .participantLeft, fun _ => rfl,
      .optional string_plain <| .required string_plain <| .of⟩
  | .driveIntentSet =>
    ⟨DriveIntentSet.record, .driveIntentSet, fun _ => rfl,
      .required DriveIntent.decoder_plain <| .required string_plain <| .of⟩
  | .focusChanged =>
    ⟨FocusChanged.record, .focusChanged, fun _ => rfl,
      .required string_plain <| .required string_plain <| .of⟩
  | .commentPosted =>
    ⟨CommentPosted.record, .commentPosted, fun _ => rfl,
      .defaulted string_plain <| .required string_plain <| .required string_plain <| .of⟩
  | .warningRaised =>
    ⟨WarningRaised.record, .warningRaised, fun _ => rfl,
      .optional string_plain <| .defaulted string_plain <| .required string_plain <| .of⟩
  | .warningAcknowledged =>
    ⟨WarningAcknowledged.record, .warningAcknowledged, fun _ => rfl,
      .required string_plain <| .required string_plain <| .of⟩
  | .glossaryScopeActivated =>
    ⟨GlossaryScopeActivated.record, .glossaryScopeActivated, fun _ => rfl,
      .optional string_plain <| .required string_plain <| .of⟩
  | .glossaryStrictnessSet =>
    ⟨GlossaryStrictnessSet.record, .glossaryStrictnessSet, fun _ => rfl,
      .required Strictness.decoder_plain <| .of⟩
  | .termCandidateObserved =>
    ⟨TermCandidateObserved.record, .termCandidateObserved, fun _ => rfl,
      .optional string_plain <| .required string_plain <| .required string_plain <| .of⟩
  | .glossarySenseUpdated =>
    ⟨GlossarySenseUpdated.record, .glossarySenseUpdated, fun _ => rfl,
      .defaulted string_plain <| .required string_plain <| .required string_plain <|
        .required string_plain <| .of⟩
  | .glossaryClarificationRequested =>
    ⟨GlossaryClarificationRequested.record, .glossaryClarificationRequested, fun _ => rfl,
      .defaulted string_plain <| .required string_plain <| .required string_plain <| .of⟩
  | .glossaryClarificationResolved =>
    ⟨GlossaryClarificationResolved.record, .glossaryClarificationResolved, fun _ => rfl,
      .optional string_plain <| .optional string_plain <| .required string_plain <| .of⟩
  | .semanticCheckEvaluated =>
    ⟨SemanticCheckEvaluated.record, .semanticCheckEvaluated, fun _ => rfl,
      .defaulted strings_plain <| .required CheckOutcome.decoder_plain <| .required string_plain <|
        .of⟩
  | .generationBlockedBySemanticConflict =>
    ⟨GenerationBlockedBySemanticConflict.record, .generationBlockedBySemanticConflict, fun _ => rfl,
      .defaulted strings_plain <| .required string_plain <| .of⟩

theorem form_titled (k : Kind) : '`' ∉ (form k).record.title.toList := by
  cases k <;> decide

theorem form_spelled (k : Kind) :
    ∀ name ∈ (form k).record.fields.map (·.name), name ≠ "" ∧ '`' ∉ name.toList := by
  cases k <;> decide

end Payload

namespace Kind

/-- What a payload of a kind gives for a field: the member of an object, or the item of a list that
    stands where the field does. -/
def given? (k : Kind) (v : Json) (name : String) : Option Json := (Payload.form k).record.given? v name

/-- No payload of the kind is taken without the field. -/
def Requires (k : Kind) (name : String) : Prop :=
  ∀ v, k.given? v name = none → ∃ e, Payload.decode k v = .error e

end Kind

theorem Payload.decode_refused {k : Kind} {v : Json} {e : Refusal} (refused : decode k v = .error e) :
    e.Plain ∨ ∃ name, e = .missingField name ∧ (name ≠ "" ∧ '`' ∉ name.toList) ∧
      k.Requires name ∧ k.given? v name = none := by
  rw [(form k).decodes] at refused
  rcases (form k).candid.decode (form_titled k) (map_eq_error.mp refused) with
    plain | ⟨name, field, rfl, absent, needs⟩
  · exact .inl plain
  · refine .inr ⟨name, rfl, form_spelled k name field, fun v absent => ?_, absent⟩
    obtain ⟨e, refused⟩ := needs.refuses absent
    exact ⟨e, ((form k).decodes v).trans (map_eq_error.mpr refused)⟩

end EventLedger
