import EventLedger.ErrorCode
import EventLedger.Identity.EventId
import EventLedger.Json.Fault

namespace EventLedger

structure ErrorDetails where
  context : List (String × Json) := []
  entityType : Option String := none
  entityId : Option String := none
deriving Repr

namespace ErrorDetails

def entity (entityType entityId : String) : ErrorDetails :=
  ⟨[], some entityType, some entityId⟩

def withContext (d : ErrorDetails) (key : String) (value : Json) : ErrorDetails :=
  { d with context := Json.insertMember key value d.context }

def toJson (d : ErrorDetails) : Json :=
  .object <|
    (if d.context.isEmpty then [] else [("context", .object d.context)]) ++
    (d.entityId.elim [] fun s => [("entity_id", .string s)]) ++
    (d.entityType.elim [] fun s => [("entity_type", .string s)])

end ErrorDetails

structure LedgerError where
  code : ErrorCode
  userMessage : String
  internalMessage : Option String := none
  details : ErrorDetails := {}
  source : Option String := none
deriving Repr

namespace LedgerError

def message (e : LedgerError) : String :=
  "[" ++ e.code.name ++ "] " ++ e.userMessage ++
    (e.internalMessage.elim "" fun m => " (internal: " ++ m ++ ")")

def withContext (e : LedgerError) (key : String) (value : Json) : LedgerError :=
  { e with details := e.details.withContext key value }

def withSource (e : LedgerError) (source : String) : LedgerError :=
  { e with source := some source }

def withInternal (code : ErrorCode) (userMessage internalMessage : String) : LedgerError :=
  { code, userMessage, internalMessage := some internalMessage }

def internal (message : String) : LedgerError :=
  withInternal .internalError "An internal error occurred" message

def unknownLane (raw : String) : LedgerError :=
  let e : LedgerError := { code := .unknownLane, userMessage := Refusal.laneMessage raw }
  e.withContext "value" (.string raw)

def invalidEventId (raw : String) (problem : Ulid.Problem) : LedgerError where
  code := .invalidEventId
  userMessage := "Invalid event id '" ++ raw ++ "'"
  details := (ErrorDetails.entity "event" raw).withContext "reason" (.string problem.message)

def unknownEventType (eventType : String) : LedgerError where
  code := .unknownEventType
  userMessage := "Unknown event type: " ++ eventType
  details := ErrorDetails.entity "event_type" eventType

def invalidClockValue (node value : String) : LedgerError where
  code := .invalidClockValue
  userMessage := "Invalid clock value for node " ++ node ++ ": " ++ value
  details := (ErrorDetails.entity "node" node).withContext "value" (.string value)

def payloadValidationFailed (eventType : String) (violations : Json) : LedgerError where
  code := .payloadValidationFailed
  userMessage := "Payload for " ++ eventType ++ " failed validation"
  details := (ErrorDetails.entity "event_type" eventType).withContext "violations" violations

def emptyConflictSet : LedgerError where
  code := .emptyConflictSet
  userMessage := "State machine merge requires at least one event"

def ofReadError (e : Json.ReadError) : LedgerError :=
  let code : ErrorCode := if e.problem.isEnd then .invalidJson else .deserializationError
  (withInternal code "Failed to process JSON data" e.message).withSource e.message

def ofRefusal (r : Refusal) : LedgerError := ofReadError (.ofRefusal r)

def missing (message : String) : LedgerError := { code := .recordNotFound, userMessage := message }

def missingValue (code : ErrorCode) : LedgerError := { code, userMessage := "Value not present" }

def withCause (code : ErrorCode) (cause : String) : LedgerError :=
  { code, userMessage := cause, source := some cause }

end LedgerError
end EventLedger
