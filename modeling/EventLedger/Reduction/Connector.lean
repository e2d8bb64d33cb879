import EventLedger.GrowSet
import EventLedger.Number.Bounds
import EventLedger.Reduction.Basic

namespace EventLedger.Connector

inductive ConnectorStatus where
  | provisioned
  | healthy
  | degraded
  | revoked
  | decommissioned
deriving DecidableEq, Repr

namespace ConnectorStatus

def name : ConnectorStatus → String
  | .provisioned => "provisioned"
  | .healthy => "healthy"
  | .degraded => "degraded"
  | .revoked => "revoked"
  | .decommissioned => "decommissioned"

def isUsable : ConnectorStatus → Bool
  | .provisioned | .healthy | .degraded => true
  | _ => false

end ConnectorStatus

/-- What is known of one connector. The failures are those since it was last well. -/
structure Connection where
  connectorId : String
  provider : Option String
  status : ConnectorStatus
  scopes : GrowSet
  consecutiveFailures : Nat
  lastLatencyMs : Option Nat
  degradedReason : Option String
  revokedReason : Option String
  lastEventId : EventId

def increment (n : Nat) : Nat := min (n + 1) greatestWord32

namespace Connection

def unprovisioned (id : String) (eventId : EventId) : Connection :=
  ⟨id, none, .provisioned, .empty, 0, none, none, none, eventId⟩

def toJson (c : Connection) : Json :=
  .object [("connector_id", .string c.connectorId), ("provider", .text? c.provider),
    ("status", .string c.status.name), ("scopes", c.scopes.toJson),
    ("consecutive_failures", .nat c.consecutiveFailures),
    ("last_latency_ms", .nat? c.lastLatencyMs), ("degraded_reason", .text? c.degradedReason),
    ("revoked_reason", .text? c.revokedReason), ("last_event_id", .string c.lastEventId.text)]

def checkHealth (c : Connection) (p : Payload.ConnectorHealthChecked) : Connection :=
  if p.healthy then
    { c with
      status := .healthy, consecutiveFailures := 0, degradedReason := none,
      lastLatencyMs := p.latencyMs }
  else
    { c with
      status := .degraded, consecutiveFailures := increment c.consecutiveFailures,
      lastLatencyMs := p.latencyMs }

def recover (c : Connection) : Connection × List Finding :=
  ({ c with status := .healthy, consecutiveFailures := 0, degradedReason := none },
    if c.status = .degraded then []
    else
      [⟨.invalidTransition, "Connector " ++ c.connectorId ++ " recovered while " ++ c.status.name⟩])

def decommission (c : Connection) : Connection × List Finding :=
  ({ c with status := .decommissioned },
    if c.status = .revoked then []
    else
      [⟨.invalidTransition, "Connector " ++ c.connectorId ++ " decommissioned while " ++
        c.status.name⟩])

def proceed (c : Connection) : Payload → Connection × List Finding
  | .connectorHealthChecked p => (c.checkHealth p, [])
  | .connectorDegraded p => ({ c with status := .degraded, degradedReason := p.reason }, [])
  | .connectorRecovered _ => c.recover
  | .connectorRevoked p => ({ c with status := .revoked, revokedReason := p.reason }, [])
  | .connectorDecommissioned _ => c.decommission
  | _ => (c, [])

/-- Why an event cannot change a connector any more: it was decommissioned, or it was revoked and
    waits for nothing else. -/
def refusal? (c : Connection) (e : Event) (p : Payload) : Option Finding :=
  match c.status, p with
  | .decommissioned, _ =>
    some ⟨.eventAfterTerminal,
      e.eventType ++ " after connector " ++ c.connectorId ++ " was decommissioned"⟩
  | .revoked, .connectorDecommissioned _ => none
  | .revoked, _ =>
    some ⟨.invalidTransition, e.eventType ++ " on revoked connector " ++ c.connectorId⟩
  | _, _ => none

end Connection

structure State where
  connectors : Index Connection := .empty

def provision (s : State) (e : Event) (p : Payload.ConnectorProvisioned) : State × List Finding :=
  let id := p.connectorId
  match s.connectors.find? id with
  | some c =>
    (⟨s.connectors.insert id { c with scopes := c.scopes.extend p.scopes }⟩,
      [⟨.duplicateStart, "Connector " ++ id ++ " provisioned twice"⟩])
  | none =>
    let c := { Connection.unprovisioned id e.id with
      provider := some p.provider, scopes := .ofList p.scopes }
    (⟨s.connectors.insert id c⟩, [])

/-- An event on a connector, which comes into being if it was never provisioned. -/
def change (s : State) (e : Event) (id : String) (p : Payload) : State × List Finding :=
  let (unknown, c) : List Finding × Connection :=
    match s.connectors.find? id with
    | some c => ([], c)
    | none =>
      ([⟨.eventBeforeProvisioned, e.eventType ++ " for unprovisioned connector " ++ id⟩],
        .unprovisioned id e.id)
  match c.refusal? e p with
  | some f => (⟨s.connectors.insert id c⟩, unknown ++ [f])
  | none =>
    let (c, found) := c.proceed p
    (⟨s.connectors.insert id { c with lastEventId := e.id }⟩, unknown ++ found)

def connectorId? : Payload → Option String
  | .connectorHealthChecked p => some p.connectorId
  | .connectorDegraded p => some p.connectorId
  | .connectorRecovered p => some p.connectorId
  | .connectorRevoked p => some p.connectorId
  | .connectorDecommissioned p => some p.connectorId
  | _ => none

def step (s : State) (e : Event) (p : Payload) : State × List Finding :=
  match p with
  | .connectorProvisioned p => provision s e p
  | p =>
    match connectorId? p with
    | some id => change s e id p
    | none => (s, [])

def kinds : List Kind :=
  [.connectorProvisioned, .connectorHealthChecked, .connectorDegraded, .connectorRecovered,
    .connectorRevoked, .connectorDecommissioned]

def projection : Projection State := ⟨.connector, kinds, fun _ => {}, step⟩

namespace State

def usable (s : State) : List Connection := s.connectors.values.filter (·.status.isUsable)

def statusOf? (s : State) (id : String) : Option ConnectorStatus :=
  (s.connectors.find? id).map (·.status)

def members (s : State) : List (String × Json) :=
  [("connectors", s.connectors.toJson Connection.toJson)]

end State
end EventLedger.Connector
