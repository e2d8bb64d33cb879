import EventLedger.Merge.Causality
import EventLedger.Order.Fingerprint
import EventLedger.Report.Basic

namespace EventLedger.Report

def causeText (e : Event) : String := (e.causationId.map (·.text)).getD ""

def placedJson (position : Nat) (e : Event) : Json :=
  .object [("position", .nat position), ("lamport_clock", .nat e.lamportClock),
    ("node_id", .string e.nodeId), ("event_id", .string e.id.text),
    ("event_type", .string e.eventType), ("causation_id", .string (causeText e))]

def placedRow (position : Nat) (e : Event) : List String :=
  [Text.decimal position, Text.decimal e.lamportClock, e.nodeId, e.id.text, e.eventType,
    causeText e]

def ofOrder (causal : Bool) (events : List Event) : Report :=
  let ordered := if causal then Event.topologicalOrder events else Event.canonicalize events
  let numbered := (List.range ordered.length).zip ordered
  let digest := Event.fingerprint events
  let table : Table :=
    ⟨["#", "Clock", "Node", "Event", "Type", "Caused by"],
      numbered.map fun e => placedRow (e.1 + 1) e.2⟩
  { document := .object [("causal", .bool causal), ("input", .nat events.length),
      ("digest", .string digest),
      ("events", .array (numbered.map fun e => placedJson (e.1 + 1) e.2))]
    text := table.text ++
      detail "Distinct events"
        (Text.decimal ordered.length ++ " of " ++ Text.decimal events.length ++ " read") ++
      detail "Digest" digest }

end EventLedger.Report
