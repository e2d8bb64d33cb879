import EventLedger.Json.Decoder
import EventLedger.Lane

/-! Payloads of the events that move work packages between lanes. -/

namespace EventLedger.Payload

structure WpStatusChanged where
  featureSlug : String
  wpId : String
  fromLane : Lane
  toLane : Lane
  actor : String
  force : Bool
  reason : Option String
  reviewRef : Option String
  executionMode : Option String
deriving DecidableEq, Repr

namespace WpStatusChanged

def record : Record WpStatusChanged :=
  Record.of "WpStatusChanged" mk
    |>.required "feature_slug" .string
    |>.required "wp_id" .string
    |>.required "from_lane" Lane.decoder
    |>.required "to_lane" Lane.decoder
    |>.required "actor" .string
    |>.defaulted "force" .boolean false
    |>.optional "reason" .string
    |>.optional "review_ref" .string
    |>.optional "execution_mode" .string

def toJson (p : WpStatusChanged) : Json :=
  .record [("feature_slug", .string p.featureSlug), ("wp_id", .string p.wpId),
    ("from_lane", p.fromLane.toJson), ("to_lane", p.toLane.toJson),
    ("actor", .string p.actor), ("force", .bool p.force), ("reason", .text? p.reason),
    ("review_ref", .text? p.reviewRef), ("execution_mode", .text? p.executionMode)]

end WpStatusChanged

end EventLedger.Payload
