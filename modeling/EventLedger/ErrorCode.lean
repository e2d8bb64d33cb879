namespace EventLedger

inductive ErrorCode where
  | payloadValidationFailed
  | unknownEventType
  | unknownLane
  | invalidClockValue
  | invalidEventId
  | emptyConflictSet
  | storageError
  | clockStorageFailed
  | eventStoreFailed
  | recordNotFound
  | serializationError
  | deserializationError
  | invalidJson
  | configurationError
  | missingConfiguration
  | invalidConfiguration
  | internalError
deriving DecidableEq, Repr

inductive Severity where
  | low
  | medium
  | high
  | critical
deriving DecidableEq, Repr

def Severity.name : Severity → String
  | low => "low"
  | medium => "medium"
  | high => "high"
  | critical => "critical"

namespace ErrorCode

def all : List ErrorCode :=
  [payloadValidationFailed, unknownEventType, unknownLane, invalidClockValue, invalidEventId,
    emptyConflictSet, storageError, clockStorageFailed, eventStoreFailed, recordNotFound,
    serializationError, deserializationError, invalidJson, configurationError,
    missingConfiguration, invalidConfiguration, internalError]

def name : ErrorCode → String
  | payloadValidationFailed => "PayloadValidationFailed"
  | unknownEventType => "UnknownEventType"
  | unknownLane => "UnknownLane"
  | invalidClockValue => "InvalidClockValue"
  | invalidEventId => "InvalidEventId"
  | emptyConflictSet => "EmptyConflictSet"
  | storageError => "StorageError"
  | clockStorageFailed => "ClockStorageFailed"
  | eventStoreFailed => "EventStoreFailed"
  | recordNotFound => "RecordNotFound"
  | serializationError => "SerializationError"
  | deserializationError => "DeserializationError"
  | invalidJson => "InvalidJson"
  | configurationError => "ConfigurationError"
  | missingConfiguration => "MissingConfiguration"
  | invalidConfiguration => "InvalidConfiguration"
  | internalError => "InternalError"

def screamingName (c : ErrorCode) : String :=
  match c.name.toList with
  | [] => ""
  | first :: rest =>
    String.ofList (first.toUpper :: rest.flatMap fun d =>
      if d.isUpper then ['_', d] else [d.toUpper])

def number : ErrorCode → Nat
  | payloadValidationFailed => 1000
  | unknownEventType => 1001
  | unknownLane => 1002
  | invalidClockValue => 1003
  | invalidEventId => 1004
  | emptyConflictSet => 1005
  | storageError => 2000
  | clockStorageFailed => 2001
  | eventStoreFailed => 2002
  | recordNotFound => 2003
  | serializationError => 2200
  | deserializationError => 2201
  | invalidJson => 2202
  | configurationError => 5000
  | missingConfiguration => 5001
  | invalidConfiguration => 5002
  | internalError => 9000

def category (c : ErrorCode) : String :=
  if c.number < 1100 then "validation"
  else if c.number < 2100 then "storage"
  else if c.number < 2300 then "serialization"
  else if c.number < 5100 then "configuration"
  else "internal"

def isValidation (c : ErrorCode) : Bool := 1000 ≤ c.number && c.number < 1100

def severity : ErrorCode → Severity
  | payloadValidationFailed | unknownEventType | unknownLane | invalidClockValue | invalidEventId
  | emptyConflictSet | recordNotFound => .low
  | configurationError | missingConfiguration | invalidConfiguration => .medium
  | storageError | clockStorageFailed | eventStoreFailed | serializationError
  | deserializationError | invalidJson => .high
  | internalError => .critical

end ErrorCode
end EventLedger
