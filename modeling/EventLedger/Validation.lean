import EventLedger.Event.Basic
import EventLedger.LedgerError
import EventLedger.Metrics
import EventLedger.Payload
import EventLedger.Text.Blank

namespace EventLedger

inductive ViolationKind where
  | required
  | invalidValue
  | pattern
  | unknownEventType
deriving DecidableEq, Repr

def ViolationKind.name : ViolationKind → String
  | .required => "required"
  | .invalidValue => "invalid_value"
  | .pattern => "pattern"
  | .unknownEventType => "unknown_event_type"

structure Violation where
  field : String
  kind : ViolationKind
  message : String
deriving DecidableEq, Repr

def Violation.toJson (v : Violation) : Json :=
  .record [("field", .string v.field), ("kind", .string v.kind.name), ("message", .string v.message)]

namespace Validation

/-- The written form of a ULID: a digit up to 7, then 25 base-32 digits in capitals. -/
def isUlidForm (s : String) : Bool :=
  match s.toList with
  | [] => false
  | c :: rest =>
    '0' ≤ c && c ≤ '7' && rest.length == 25 &&
      rest.all fun d =>
        Text.isDigit d || ('A' ≤ d && d ≤ 'H') || d == 'J' || d == 'K' || d == 'M' || d == 'N' ||
          ('P' ≤ d && d ≤ 'T') || ('V' ≤ d && d ≤ 'Z')

def isSlug (s : String) : Bool :=
  (s.toList.splitOn '-').all fun word =>
    !word.isEmpty && word.all fun c => Text.isDigit c || ('a' ≤ c && c ≤ 'z')

inductive Strictness where
  | strict
  | lenient
deriving DecidableEq, Repr

def eventIdViolations (mode : Strictness) (e : Event) : List Violation :=
  if e.id.text.isEmpty then [⟨"event_id", .required, "event_id must not be empty"⟩]
  else if mode = .strict ∧ isUlidForm e.id.text = false then
    [⟨"event_id", .pattern, "'" ++ e.id.text ++ "' is not a ULID"⟩]
  else []

def causationViolations (mode : Strictness) (e : Event) : List Violation :=
  match e.causationId with
  | some cause =>
    if mode = .strict ∧ isUlidForm cause.text = false then
      [⟨"causation_id", .pattern, "'" ++ cause.text ++ "' is not a ULID"⟩]
    else []
  | none => []

def nameViolations (field value : String) : List Violation :=
  if Text.isBlankText value then [⟨field, .required, field ++ " must not be empty"⟩] else []

def slugViolations (e : Event) : List Violation :=
  match e.projectSlug with
  | some slug =>
    if isSlug slug then []
    else [⟨"project_slug", .pattern, "'" ++ slug ++ "' is not a lowercase slug"⟩]
  | none => []

def envelope (mode : Strictness) (e : Event) : List Violation :=
  eventIdViolations mode e ++ causationViolations mode e ++
    nameViolations "aggregate_id" e.aggregateId ++ nameViolations "node_id" e.nodeId ++
    slugViolations e

def missingFieldLabel : List Char := "missing field `".toList

def missingField? : List Char → Option String
  | [] => none
  | c :: cs =>
    let name := ((c :: cs).drop missingFieldLabel.length).takeWhile (· ≠ '`')
    let after := ((c :: cs).drop missingFieldLabel.length).dropWhile (· ≠ '`')
    if missingFieldLabel.isPrefixOf (c :: cs) && !name.isEmpty && !after.isEmpty then
      some (String.ofList name)
    else missingField? cs

def ofRefusal (r : Refusal) : Violation :=
  match missingField? r.message.toList with
  | some name => ⟨"payload." ++ name, .required, r.message⟩
  | none => ⟨"payload", .invalidValue, r.message⟩

def payload (eventType : String) (v : Json) : List Violation :=
  match Kind.ofName? eventType with
  | none =>
    [⟨"event_type", .unknownEventType, "'" ++ eventType ++ "' is not a known event type"⟩]
  | some k =>
    match Payload.decode k v with
    | .ok _ => []
    | .error r => [ofRefusal r]

def payloadSamples (eventType : String) (v : Json) : List Metrics.Sample :=
  match (Kind.ofName? eventType).map fun k => Payload.decode k v with
  | some (.error r) => r.samples
  | _ => []

def violationsJson (vs : List Violation) : Json := .array (vs.map Violation.toJson)

/-- Checks an event and gives its payload. All violations are reported together. -/
def event (mode : Strictness) (e : Event) : Except LedgerError Payload :=
  match envelope mode e ++ payload e.eventType e.payload with
  | [] =>
    match e.kind? with
    | some k => (Payload.decode k e.payload).mapError LedgerError.ofRefusal
    | none => .error (.unknownEventType e.eventType)
  | vs =>
    .error ((LedgerError.payloadValidationFailed e.eventType (violationsJson vs)).withContext
      "event_id" (.string e.id.text))

end Validation
end EventLedger
