import EventLedger.Json.Decoder
import EventLedger.Payload.Values

/-! Payloads of the events of a shared session. -/

namespace EventLedger.Payload

structure ParticipantInvited where
  participantId : String
  displayName : Option String
  role : Option String
deriving DecidableEq, Repr

namespace ParticipantInvited

def record : Record ParticipantInvited :=
  Record.of "ParticipantInvited" mk
    |>.required "participant_id" .string
    |>.optional "display_name" .string
    |>.optional "role" .string

def toJson (p : ParticipantInvited) : Json :=
  .record [("participant_id", .string p.participantId),
    ("display_name", .text? p.displayName), ("role", .text? p.role)]

end ParticipantInvited

structure ParticipantJoined where
  participantId : String
  displayName : Option String
deriving DecidableEq, Repr

namespace ParticipantJoined

def record : Record ParticipantJoined :=
  Record.of "ParticipantJoined" mk
    |>.required "participant_id" .string
    |>.optional "display_name" .string

def toJson (p : ParticipantJoined) : Json :=
  .record [("participant_id", .string p.participantId), ("display_name", .text? p.displayName)]

end ParticipantJoined

structure ParticipantLeft where
  participantId : String
  reason : Option String
deriving DecidableEq, Repr

namespace ParticipantLeft

def record : Record ParticipantLeft :=
  Record.of "ParticipantLeft" mk
    |>.required "participant_id" .string
    |>.optional "reason" .string

def toJson (p : ParticipantLeft) : Json :=
  .record [("participant_id", .string p.participantId), ("reason", .text? p.reason)]

end ParticipantLeft

structure DriveIntentSet where
  participantId : String
  intent : DriveIntent
deriving DecidableEq, Repr

namespace DriveIntentSet

def record : Record DriveIntentSet :=
  Record.of "DriveIntentSet" mk
    |>.required "participant_id" .string
    |>.required "intent" DriveIntent.decoder

def toJson (p : DriveIntentSet) : Json :=
  .record [("participant_id", .string p.participantId), ("intent", p.intent.toJson)]

end DriveIntentSet

structure FocusChanged where
  participantId : String
  focusTarget : String
deriving DecidableEq, Repr

namespace FocusChanged

def record : Record FocusChanged :=
  Record.of "FocusChanged" mk
    |>.required "participant_id" .string
    |>.required "focus_target" .string

def toJson (p : FocusChanged) : Json :=
  .record [("participant_id", .string p.participantId), ("focus_target", .string p.focusTarget)]

end FocusChanged

structure CommentPosted where
  participantId : String
  commentId : String
  body : String
deriving DecidableEq, Repr

namespace CommentPosted

def record : Record CommentPosted :=
  Record.of "CommentPosted" mk
    |>.required "participant_id" .string
    |>.required "comment_id" .string
    |>.defaulted "body" .string ""

def toJson (p : CommentPosted) : Json :=
  .record [("participant_id", .string p.participantId), ("comment_id", .string p.commentId),
    ("body", .string p.body)]

end CommentPosted

structure WarningRaised where
  warningId : String
  message : String
  severity : Option String
deriving DecidableEq, Repr

namespace WarningRaised

def record : Record WarningRaised :=
  Record.of "WarningRaised" mk
    |>.required "warning_id" .string
    |>.defaulted "message" .string ""
    |>.optional "severity" .string

def toJson (p : WarningRaised) : Json :=
  .record [("warning_id", .string p.warningId), ("message", .string p.message),
    ("severity", .text? p.severity)]

end WarningRaised

structure WarningAcknowledged where
  warningId : String
  participantId : String
deriving DecidableEq, Repr

namespace WarningAcknowledged

def record : Record WarningAcknowledged :=
  Record.of "WarningAcknowledged" mk
    |>.required "warning_id" .string
    |>.required "participant_id" .string

def toJson (p : WarningAcknowledged) : Json :=
  .record [("warning_id", .string p.warningId), ("participant_id", .string p.participantId)]

end WarningAcknowledged

end EventLedger.Payload
