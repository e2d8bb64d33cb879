import EventLedger.Index
import EventLedger.LedgerError
import EventLedger.Metrics
import EventLedger.Order.Basic

namespace EventLedger

structure StatePriority where
  priorities : Index Int
  stateField : String := "state"
  fallbackField : Option String := some "to_lane"

namespace StatePriority

def lanePriorities : Index Int :=
  .ofList [("done", 6), ("canceled", 5), ("for_review", 4), ("in_progress", 3), ("blocked", 2),
    ("claimed", 1), ("planned", 0)]

def laneDefaults : StatePriority := { priorities := lanePriorities }

def withStateField (p : StatePriority) (field : String) : StatePriority :=
  { p with stateField := field }

def resolvedState? (p : StatePriority) (e : Event) : Option String :=
  (e.payloadText? p.stateField).or (p.fallbackField.bind e.payloadText?)

def rank (p : StatePriority) (state : Option String) : Int :=
  (state.bind p.priorities.find?).getD 0

def rankOf (p : StatePriority) (e : Event) : Int := p.rank (p.resolvedState? e)

def prioritiesFrom : List (String × Json) → Except Refusal (Index Int)
  | [] => .ok .empty
  | (name, v) :: ms => do
    let i ← Decoder.signed64 v
    let rest ← prioritiesFrom ms
    .ok (if rest.contains name then rest else rest.insert name i)

def prioritiesDecoder : Decoder (Index Int)
  | .object ms => prioritiesFrom ms
  | v => .error (.wrongType v "a map")

def record : Record StatePriority :=
  Record.of "StatePriority" mk
    |>.required "priorities" prioritiesDecoder
    |>.defaulted "state_field" .string "state"
    |>.defaulted "fallback_field" (.optional .string) (some "to_lane")

def decode : Decoder StatePriority := record.decode

def toJson (p : StatePriority) : Json :=
  .record [("priorities", p.priorities.toJson .int), ("state_field", .string p.stateField),
    ("fallback_field", .text? p.fallbackField)]

end StatePriority
end EventLedger
