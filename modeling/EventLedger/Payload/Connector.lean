import EventLedger.Json.Decoder

/-! Payloads of connector events. -/

namespace EventLedger.Payload

structure ConnectorProvisioned where
  connectorId : String
  provider : String
  scopes : List String
deriving DecidableEq, Repr

namespace ConnectorProvisioned

def record : Record ConnectorProvisioned :=
  Record.of "ConnectorProvisioned" mk
    |>.required "connector_id" .string
    |>.required "provider" .string
    |>.defaulted "scopes" .strings []

def toJson (p : ConnectorProvisioned) : Json :=
  .record [("connector_id", .string p.connectorId), ("provider", .string p.provider),
    ("scopes", .strings p.scopes)]

end ConnectorProvisioned

structure ConnectorHealthChecked where
  connectorId : String
  healthy : Bool
  latencyMs : Option Nat
deriving DecidableEq, Repr

namespace ConnectorHealthChecked

def record : Record ConnectorHealthChecked :=
  Record.of "ConnectorHealthChecked" mk
    |>.required "connector_id" .string
    |>.required "healthy" .boolean
    |>.optional "latency_ms" .word64

def toJson (p : ConnectorHealthChecked) : Json :=
  .record [("connector_id", .string p.connectorId), ("healthy", .bool p.healthy),
    ("latency_ms", .nat? p.latencyMs)]

end ConnectorHealthChecked

structure ConnectorDegraded where
  connectorId : String
  reason : Option String
deriving DecidableEq, Repr

namespace ConnectorDegraded

def record : Record ConnectorDegraded :=
  Record.of "ConnectorDegraded" mk
    |>.required "connector_id" .string
    |>.optional "reason" .string

def toJson (p : ConnectorDegraded) : Json :=
  .record [("connector_id", .string p.connectorId), ("reason", .text? p.reason)]

end ConnectorDegraded

structure ConnectorRecovered where
  connectorId : String
deriving DecidableEq, Repr

namespace ConnectorRecovered

def record : Record ConnectorRecovered :=
  Record.of "ConnectorRecovered" mk
    |>.required "connector_id" .string

def toJson (p : ConnectorRecovered) : Json :=
  .record [("connector_id", .string p.connectorId)]

end ConnectorRecovered

structure ConnectorRevoked where
  connectorId : String
  reason : Option String
deriving DecidableEq, Repr

namespace ConnectorRevoked

def record : Record ConnectorRevoked :=
  Record.of "ConnectorRevoked" mk
    |>.required "connector_id" .string
    |>.optional "reason" .string

def toJson (p : ConnectorRevoked) : Json :=
  .record [("connector_id", .string p.connectorId), ("reason", .text? p.reason)]

end ConnectorRevoked

structure ConnectorDecommissioned where
  connectorId : String
deriving DecidableEq, Repr

namespace ConnectorDecommissioned

def record : Record ConnectorDecommissioned :=
  Record.of "ConnectorDecommissioned" mk
    |>.required "connector_id" .string

def toJson (p : ConnectorDecommissioned) : Json :=
  .record [("connector_id", .string p.connectorId)]

end ConnectorDecommissioned

end EventLedger.Payload
