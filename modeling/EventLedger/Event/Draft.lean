import EventLedger.Event.Basic

namespace EventLedger

structure EventDraft where
  id : EventId
  eventType : String
  aggregateId : String
  timestamp : Timestamp
  nodeId : String := "local"
  lamportClock : Nat := 0
  causationId : Option EventId := none
  correlationId : Option String := none
  project : Option (Uuid × String) := none
  schemaVersion : String := currentSchemaVersion
  payload : Json := .empty

namespace EventDraft

def event (d : EventDraft) : Event where
  id := d.id
  eventType := d.eventType
  aggregateId := d.aggregateId
  timestamp := d.timestamp
  nodeId := d.nodeId
  lamportClock := d.lamportClock
  causationId := d.causationId
  correlationId := d.correlationId.getD d.id.text
  projectUuid := d.project.map (·.1)
  projectSlug := d.project.map (·.2)
  schemaVersion := d.schemaVersion
  payload := d.payload

end EventDraft
end EventLedger
