import EventLedger.Metrics
import EventLedger.Order.Basic
import EventLedger.Payload

namespace EventLedger

structure AnomalyLog where
  domain : Domain
  entries : List Anomaly
  samples : List Metrics.Sample

namespace AnomalyLog

def empty (d : Domain) : AnomalyLog := ⟨d, [], []⟩

def record (log : AnomalyLog) (e : Event) (f : Finding) : AnomalyLog where
  domain := log.domain
  entries := log.entries ++ [.about e f]
  samples := log.samples ++ [.anomaly log.domain f.kind]

def recordAll (log : AnomalyLog) (e : Event) (fs : List Finding) : AnomalyLog :=
  fs.foldl (fun log f => log.record e f) log

def count (log : AnomalyLog) (s : Metrics.Sample) : AnomalyLog :=
  { log with samples := log.samples ++ [s] }

end AnomalyLog

inductive Sifted where
  | relevant (payload : Payload)
  | malformed (kind : Kind) (refusal : Refusal)
  | unrecognized
  | foreign

namespace Sifted

/-- A domain takes the events of the kinds that it folds; an event outside the catalog goes to the
    domain that claims its type. -/
def ofEvent (d : Domain) (kinds : List Kind) (e : Event) : Sifted :=
  match e.kind? with
  | some k =>
    if kinds.contains k then
      match Payload.decode k e.payload with
      | .ok p => .relevant p
      | .error r => .malformed k r
    else .foreign
  | none => if Domain.claiming e.eventType = some d then .unrecognized else .foreign

def payload? : Sifted → Option Payload
  | .relevant p => some p
  | _ => none

def finding? (d : Domain) (e : Event) : Sifted → Option Finding
  | .malformed k r => some ⟨.malformedPayload, k.name ++ " payload rejected: " ++ r.message⟩
  | .unrecognized =>
    some ⟨.unrecognizedEventType,
      "Unrecognized " ++ d.name ++ " event type '" ++ e.eventType ++ "'"⟩
  | _ => none

def samples : Sifted → List Metrics.Sample
  | .malformed _ r => r.samples
  | _ => []

end Sifted

/-- A state machine that is folded over the events of one domain, those of the kinds that it lists.
    It sees the whole sequence once before the fold. -/
structure Projection (σ : Type) where
  domain : Domain
  kinds : List Kind
  start : List (Event × Payload) → σ
  step : σ → Event → Payload → σ × List Finding

structure Snapshot (σ : Type) where
  state : σ
  eventCount : Nat
  anomalies : List Anomaly
  lastEventId : Option EventId

namespace Projection

def relevant (p : Projection σ) (canonical : List Event) : List (Event × Payload) :=
  canonical.filterMap fun e => (Sifted.ofEvent p.domain p.kinds e).payload?.map (e, ·)

def screen (p : Projection σ) (canonical : List Event) : AnomalyLog :=
  canonical.foldl
    (fun log e =>
      let s := Sifted.ofEvent p.domain p.kinds e
      let log := s.samples.foldl AnomalyLog.count log
      (s.finding? p.domain e).elim log (log.record e))
    (.empty p.domain)

def fold (p : Projection σ) (s : σ) (log : AnomalyLog) :
    List (Event × Payload) → σ × AnomalyLog
  | [] => (s, log)
  | (e, payload) :: rest =>
    let (s, found) := p.step s e payload
    p.fold s (log.recordAll e found) rest

/-- Reduces any list of events: its canonical sequence is sifted, then folded in order. The
    samples are what one reduction counts. -/
def run (p : Projection σ) (events : List Event) : Snapshot σ × List Metrics.Sample :=
  let canonical := Event.canonicalize events
  let folded := p.relevant canonical
  let (state, log) := p.fold (p.start folded) (p.screen canonical) folded
  let dropped := events.length - canonical.length
  let samples := log.samples ++ [.reduction p.domain, .folded p.domain folded.length] ++
    (if 0 < dropped then [.duplicates p.domain dropped] else [])
  (⟨state, folded.length, log.entries, folded.getLast?.map (·.1.id)⟩, samples)

def reduce (p : Projection σ) (events : List Event) : Snapshot σ := (p.run events).1

end Projection

namespace Snapshot

def members (state : σ → List (String × Json)) (s : Snapshot σ) : List (String × Json) :=
  state s.state ++
    [("event_count", .nat s.eventCount), ("anomalies", .array (s.anomalies.map Anomaly.toJson)),
      ("last_event_id", .optional (fun id => .string id.text) s.lastEventId)]

end Snapshot

structure PendingDecision where
  decisionId : String
  question : String
  options : List String
  requestedBy : EventId
deriving DecidableEq, Repr

def acceptsOption (options : List String) (answer : String) : Bool :=
  options.isEmpty || options.contains answer

namespace PendingDecision

def accepts (d : PendingDecision) (answer : String) : Bool := acceptsOption d.options answer

def toJson (d : PendingDecision) : Json :=
  .object [("decision_id", .string d.decisionId), ("question", .string d.question),
    ("options", .strings d.options), ("requested_by", .string d.requestedBy.text)]

end PendingDecision
end EventLedger
