import EventLedger.Catalog
import EventLedger.Identity.EventId
import EventLedger.Identity.Uuid
import EventLedger.Json.RecordReader
import EventLedger.Timestamp

namespace EventLedger

def currentSchemaVersion : String := "1.0.0"

/-- An immutable fact: identity, causal data, scope, and a JSON payload whose shape the event type
    selects. -/
structure Event where
  id : EventId
  eventType : String
  aggregateId : String
  timestamp : Timestamp
  nodeId : String
  lamportClock : Nat
  causationId : Option EventId
  correlationId : String
  projectUuid : Option Uuid
  projectSlug : Option String
  schemaVersion : String
  payload : Json

namespace Event

def same (a b : Event) : Bool :=
  a.id == b.id && a.eventType == b.eventType && a.aggregateId == b.aggregateId &&
    a.timestamp == b.timestamp && a.nodeId == b.nodeId && a.lamportClock == b.lamportClock &&
    a.causationId == b.causationId && a.correlationId == b.correlationId &&
    a.projectUuid == b.projectUuid && a.projectSlug == b.projectSlug &&
    a.schemaVersion == b.schemaVersion && a.payload.same b.payload

def kind? (e : Event) : Option Kind := Kind.ofName? e.eventType

def payloadText? (e : Event) (field : String) : Option String :=
  (e.payload.get? field).bind Json.asString?

end Event

namespace Decoder

def eventId : Decoder EventId := fun v => (string v).map EventId.mk

def timestamp : Decoder Timestamp
  | .string s => (Timestamp.parse s).mapError fun p => .rule p.message
  | v => .error (.wrongType v "an RFC 3339 formatted date and time string")

def uuid : Decoder Uuid
  | .string s => (Uuid.parse s).mapError fun p => .rule ("UUID parsing failed: " ++ p.message)
  | v => .error (.wrongType v "a formatted UUID string")

end Decoder

namespace Event

def record : Record Event :=
  Record.of "Event" mk
    |>.required "event_id" .eventId
    |>.required "event_type" .string
    |>.required "aggregate_id" .string
    |>.required "timestamp" .timestamp
    |>.required "node_id" .string
    |>.required "lamport_clock" .word64
    |>.optional "causation_id" .eventId
    |>.defaulted "correlation_id" .string ""
    |>.optional "project_uuid" .uuid
    |>.optional "project_slug" .string
    |>.defaulted "schema_version" .string currentSchemaVersion
    |>.free "payload" .empty

def decode : Decoder Event := record.decode

def parse (s : String) : Except Json.ReadError Event := record.parse s

def member? (name : String) (f : α → Json) (x : Option α) : List (String × Json) :=
  x.elim [] fun a => [(name, f a)]

def members (e : Event) : List (String × Json) :=
  [("event_id", .string e.id.text), ("event_type", .string e.eventType),
    ("aggregate_id", .string e.aggregateId), ("timestamp", .string e.timestamp.text),
    ("node_id", .string e.nodeId), ("lamport_clock", .nat e.lamportClock)] ++
  member? "causation_id" (fun id => .string id.text) e.causationId ++
  [("correlation_id", .string e.correlationId)] ++
  member? "project_uuid" (fun u => .string u.text) e.projectUuid ++
  member? "project_slug" .string e.projectSlug ++
  [("schema_version", .string e.schemaVersion), ("payload", e.payload)]

def toJson (e : Event) : Json := .object e.members

def text (e : Event) : String := e.toJson.text

end Event
end EventLedger
