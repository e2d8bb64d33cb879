import EventLedger.GrowSet
import EventLedger.Reduction.Basic

namespace EventLedger.Collaboration

inductive Presence where
  | invited
  | joined
  | left
deriving DecidableEq, Repr

def Presence.name : Presence → String
  | .invited => "invited"
  | .joined => "joined"
  | .left => "left"

structure Participant where
  participantId : String
  displayName : Option String := none
  role : Option String := none
  presence : Presence
  driveIntent : Option DriveIntent := none
  focus : Option String := none
  comments : Nat := 0
deriving DecidableEq, Repr

namespace Participant

def isDriving (p : Participant) : Bool := p.presence == .joined && p.driveIntent == some .active

def toJson (p : Participant) : Json :=
  .object [("participant_id", .string p.participantId), ("display_name", .text? p.displayName),
    ("role", .text? p.role), ("presence", .string p.presence.name),
    ("drive_intent", .optional DriveIntent.toJson p.driveIntent), ("focus", .text? p.focus),
    ("comments", .nat p.comments)]

end Participant

structure Warning where
  warningId : String
  message : String
  severity : Option String
  raisedBy : EventId
  acknowledgedBy : GrowSet

def Warning.toJson (w : Warning) : Json :=
  .object [("warning_id", .string w.warningId), ("message", .string w.message),
    ("severity", .text? w.severity), ("raised_by", .string w.raisedBy.text),
    ("acknowledged_by", w.acknowledgedBy.toJson)]

structure State where
  sessionId : Option String := none
  participants : Index Participant := .empty
  warnings : Index Warning := .empty
  commentCount : Nat := 0

def setParticipant (s : State) (id : String) (p : Participant) : State :=
  { s with participants := s.participants.insert id p }

def setWarning (s : State) (id : String) (w : Warning) : State :=
  { s with warnings := s.warnings.insert id w }

def invite (s : State) (p : Payload.ParticipantInvited) : State :=
  let known : Participant := (s.participants.find? p.participantId).getD
    { participantId := p.participantId, presence := .invited }
  setParticipant s p.participantId
    { known with
      displayName := p.displayName.or known.displayName, role := p.role.or known.role }

def join (s : State) (p : Payload.ParticipantJoined) : State :=
  let known : Participant := (s.participants.find? p.participantId).getD
    { participantId := p.participantId, presence := .joined }
  setParticipant s p.participantId
    { known with presence := .joined, displayName := p.displayName.or known.displayName }

/-- Changes a participant who has joined and not left; for anyone else nothing changes. -/
def change (s : State) (e : Event) (id : String) (f : Participant → Participant) :
    State × List Finding :=
  match s.participants.find? id with
  | none =>
    (s, [⟨.unknownParticipant, e.eventType ++ " from unknown participant " ++ id⟩])
  | some p =>
    if p.presence = .joined then
      (setParticipant s id (f p), [])
    else
      (s, [⟨.participantNotJoined,
        e.eventType ++ " from participant " ++ id ++ " who has not joined"⟩])

def leave (p : Participant) : Participant :=
  { p with presence := .left, driveIntent := none, focus := none }

def warn (s : State) (e : Event) (p : Payload.WarningRaised) : State :=
  if s.warnings.contains p.warningId then s
  else setWarning s p.warningId ⟨p.warningId, p.message, p.severity, e.id, .empty⟩

def acknowledge (s : State) (p : Payload.WarningAcknowledged) : State × List Finding :=
  let stranger : List Finding :=
    if s.participants.contains p.participantId then []
    else
      [⟨.unknownParticipant, "Warning acknowledged by unknown participant " ++ p.participantId⟩]
  match s.warnings.find? p.warningId with
  | some w =>
    (setWarning s p.warningId
      { w with acknowledgedBy := w.acknowledgedBy.insert p.participantId }, stranger)
  | none =>
    (s, stranger ++ [⟨.unknownWarning, "Acknowledgement of unknown warning " ++ p.warningId⟩])

def step (s : State) (e : Event) (p : Payload) : State × List Finding :=
  let s := { s with sessionId := s.sessionId.or (some e.aggregateId) }
  match p with
  | .participantInvited p => (invite s p, [])
  | .participantJoined p => (join s p, [])
  | .participantLeft p => change s e p.participantId leave
  | .driveIntentSet p =>
    change s e p.participantId fun x => { x with driveIntent := some p.intent }
  | .focusChanged p => change s e p.participantId fun x => { x with focus := some p.focusTarget }
  | .commentPosted p =>
    change { s with commentCount := s.commentCount + 1 } e p.participantId fun x =>
      { x with comments := x.comments + 1 }
  | .warningRaised p => (warn s e p, [])
  | .warningAcknowledged p => acknowledge s p
  | _ => (s, [])

def kinds : List Kind :=
  [.participantInvited, .participantJoined, .participantLeft, .driveIntentSet, .focusChanged,
    .commentPosted, .warningRaised, .warningAcknowledged]

def projection : Projection State := ⟨.collaboration, kinds, fun _ => {}, step⟩

namespace State

def activeDrivers (s : State) : List String :=
  (s.participants.values.filter (·.isDriving)).map (·.participantId)

def openWarnings (s : State) : List Warning :=
  s.warnings.values.filter fun w => w.acknowledgedBy.isEmpty

def focusOf? (s : State) (id : String) : Option String :=
  (s.participants.find? id).bind (·.focus)

def members (s : State) : List (String × Json) :=
  [("session_id", .text? s.sessionId),
    ("participants", s.participants.toJson Participant.toJson),
    ("active_drivers", .strings s.activeDrivers), ("warnings", s.warnings.toJson Warning.toJson),
    ("comment_count", .nat s.commentCount)]

end State
end EventLedger.Collaboration
