import EventLedger.Merge.Replicated
import EventLedger.Report.Basic

namespace EventLedger.Report

def ofCounter (field : String) (events : List Event) : Report :=
  let total := Event.mergeCounter events field
  { document := .object [("field", .string field), ("events", .nat events.length),
      ("total", .int total)]
    text := detail field (Text.signedDecimal total) }

def ofGrowSet (field : String) (events : List Event) : Report :=
  let elements := (Event.mergeSet events field).toList
  { document := .object [("field", .string field), ("events", .nat events.length),
      ("elements", .strings elements)]
    text := heading (field ++ " (" ++ Text.decimal elements.length ++ " elements)") ++
      String.join (elements.map fun x => "  " ++ x ++ "\n") }

end EventLedger.Report
