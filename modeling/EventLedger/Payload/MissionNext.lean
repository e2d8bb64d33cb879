import EventLedger.Json.Decoder
import EventLedger.Payload.Values

/-! Payloads of the events of a mission run. -/

namespace EventLedger.Payload

structure MissionRunStarted where
  missionType : String
  actor : Option String
deriving DecidableEq, Repr

namespace MissionRunStarted

def record : Record MissionRunStarted :=
  Record.of "MissionRunStarted" mk
    |>.required "mission_type" .string
    |>.optional "actor" .string

def toJson (p : MissionRunStarted) : Json :=
  .record [("mission_type", .string p.missionType), ("actor", .text? p.actor)]

end MissionRunStarted

structure NextStepIssued where
  stepId : String
  action : String
deriving DecidableEq, Repr

namespace NextStepIssued

def record : Record NextStepIssued :=
  Record.of "NextStepIssued" mk
    |>.required "step_id" .string
    |>.defaulted "action" .string ""

def toJson (p : NextStepIssued) : Json :=
  .record [("step_id", .string p.stepId), ("action", .string p.action)]

end NextStepIssued

structure NextStepAutoCompleted where
  stepId : String
  result : StepResult
deriving DecidableEq, Repr

namespace NextStepAutoCompleted

def record : Record NextStepAutoCompleted :=
  Record.of "NextStepAutoCompleted" mk
    |>.required "step_id" .string
    |>.required "result" StepResult.decoder

def toJson (p : NextStepAutoCompleted) : Json :=
  .record [("step_id", .string p.stepId), ("result", p.result.toJson)]

end NextStepAutoCompleted

structure DecisionInputRequested where
  decisionId : String
  question : String
  options : List String
  stepId : Option String
deriving DecidableEq, Repr

namespace DecisionInputRequested

def record : Record DecisionInputRequested :=
  Record.of "DecisionInputRequested" mk
    |>.required "decision_id" .string
    |>.defaulted "question" .string ""
    |>.defaulted "options" .strings []
    |>.optional "step_id" .string

def toJson (p : DecisionInputRequested) : Json :=
  .record [("decision_id", .string p.decisionId), ("question", .string p.question),
    ("options", .strings p.options), ("step_id", .text? p.stepId)]

end DecisionInputRequested

structure DecisionInputAnswered where
  decisionId : String
  answer : String
  actor : Option String
deriving DecidableEq, Repr

namespace DecisionInputAnswered

def record : Record DecisionInputAnswered :=
  Record.of "DecisionInputAnswered" mk
    |>.required "decision_id" .string
    |>.required "answer" .string
    |>.optional "actor" .string

def toJson (p : DecisionInputAnswered) : Json :=
  .record [("decision_id", .string p.decisionId), ("answer", .string p.answer),
    ("actor", .text? p.actor)]

end DecisionInputAnswered

structure MissionRunCompleted where
  outcome : Option String
deriving DecidableEq, Repr

namespace MissionRunCompleted

def record : Record MissionRunCompleted :=
  Record.of "MissionRunCompleted" mk
    |>.optional "outcome" .string

def toJson (p : MissionRunCompleted) : Json :=
  .record [("outcome", .text? p.outcome)]

end MissionRunCompleted

end EventLedger.Payload
