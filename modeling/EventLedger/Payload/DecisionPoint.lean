import EventLedger.Json.Decoder

/-! Payloads of decision point events. -/

namespace EventLedger.Payload

structure DecisionPointOpened where
  decisionId : String
  title : String
  options : List String
  authorityRole : Option String
deriving DecidableEq, Repr

namespace DecisionPointOpened

def record : Record DecisionPointOpened :=
  Record.of "DecisionPointOpened" mk
    |>.required "decision_id" .string
    |>.defaulted "title" .string ""
    |>.defaulted "options" .strings []
    |>.optional "authority_role" .string

def toJson (p : DecisionPointOpened) : Json :=
  .record [("decision_id", .string p.decisionId), ("title", .string p.title),
    ("options", .strings p.options), ("authority_role", .text? p.authorityRole)]

end DecisionPointOpened

structure DecisionPointDiscussing where
  decisionId : String
  participant : Option String
deriving DecidableEq, Repr

namespace DecisionPointDiscussing

def record : Record DecisionPointDiscussing :=
  Record.of "DecisionPointDiscussing" mk
    |>.required "decision_id" .string
    |>.optional "participant" .string

def toJson (p : DecisionPointDiscussing) : Json :=
  .record [("decision_id", .string p.decisionId), ("participant", .text? p.participant)]

end DecisionPointDiscussing

structure DecisionPointResolved where
  decisionId : String
  chosenOption : String
  rationale : Option String
  resolvedBy : Option String
deriving DecidableEq, Repr

namespace DecisionPointResolved

def record : Record DecisionPointResolved :=
  Record.of "DecisionPointResolved" mk
    |>.required "decision_id" .string
    |>.required "chosen_option" .string
    |>.optional "rationale" .string
    |>.optional "resolved_by" .string

def toJson (p : DecisionPointResolved) : Json :=
  .record [("decision_id", .string p.decisionId), ("chosen_option", .string p.chosenOption),
    ("rationale", .text? p.rationale), ("resolved_by", .text? p.resolvedBy)]

end DecisionPointResolved

structure DecisionPointOverridden where
  decisionId : String
  chosenOption : String
  overriddenBy : Option String
  reason : Option String
deriving DecidableEq, Repr

namespace DecisionPointOverridden

def record : Record DecisionPointOverridden :=
  Record.of "DecisionPointOverridden" mk
    |>.required "decision_id" .string
    |>.required "chosen_option" .string
    |>.optional "overridden_by" .string
    |>.optional "reason" .string

def toJson (p : DecisionPointOverridden) : Json :=
  .record [("decision_id", .string p.decisionId), ("chosen_option", .string p.chosenOption),
    ("overridden_by", .text? p.overriddenBy), ("reason", .text? p.reason)]

end DecisionPointOverridden

end EventLedger.Payload
