import EventLedger.Json.Decoder

/-! Payloads of the events in the life of a mission. -/

namespace EventLedger.Payload

structure MissionCreated where
  missionType : String
  title : Option String
  actor : Option String
deriving DecidableEq, Repr

namespace MissionCreated

def record : Record MissionCreated :=
  Record.of "MissionCreated" mk
    |>.required "mission_type" .string
    |>.optional "title" .string
    |>.optional "actor" .string

def toJson (p : MissionCreated) : Json :=
  .record [("mission_type", .string p.missionType), ("title", .text? p.title),
    ("actor", .text? p.actor)]

end MissionCreated

structure MissionStarted where
  actor : Option String
deriving DecidableEq, Repr

namespace MissionStarted

def record : Record MissionStarted :=
  Record.of "MissionStarted" mk
    |>.optional "actor" .string

def toJson (p : MissionStarted) : Json :=
  .record [("actor", .text? p.actor)]

end MissionStarted

structure PhaseEntered where
  phase : String
deriving DecidableEq, Repr

namespace PhaseEntered

def record : Record PhaseEntered :=
  Record.of "PhaseEntered" mk
    |>.required "phase" .string

def toJson (p : PhaseEntered) : Json :=
  .record [("phase", .string p.phase)]

end PhaseEntered

structure MissionPaused where
  reason : Option String
deriving DecidableEq, Repr

namespace MissionPaused

def record : Record MissionPaused :=
  Record.of "MissionPaused" mk
    |>.optional "reason" .string

def toJson (p : MissionPaused) : Json :=
  .record [("reason", .text? p.reason)]

end MissionPaused

structure MissionResumed where
  actor : Option String
deriving DecidableEq, Repr

namespace MissionResumed

def record : Record MissionResumed :=
  Record.of "MissionResumed" mk
    |>.optional "actor" .string

def toJson (p : MissionResumed) : Json :=
  .record [("actor", .text? p.actor)]

end MissionResumed

structure MissionCompleted where
  summary : Option String
deriving DecidableEq, Repr

namespace MissionCompleted

def record : Record MissionCompleted :=
  Record.of "MissionCompleted" mk
    |>.optional "summary" .string

def toJson (p : MissionCompleted) : Json :=
  .record [("summary", .text? p.summary)]

end MissionCompleted

structure MissionCancelled where
  reason : Option String
deriving DecidableEq, Repr

namespace MissionCancelled

def record : Record MissionCancelled :=
  Record.of "MissionCancelled" mk
    |>.optional "reason" .string

def toJson (p : MissionCancelled) : Json :=
  .record [("reason", .text? p.reason)]

end MissionCancelled

end EventLedger.Payload
