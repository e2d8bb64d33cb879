import EventLedger.Clock.Registry
import EventLedger.Report.Basic

namespace EventLedger

namespace ClockRequest

def name : ClockRequest → String
  | current => "current"
  | tick => "tick"
  | update _ => "update"

def perform (q : ClockRequest) (r : ClockRegistry) (node : String) :
    Except LedgerError Nat × ClockRegistry :=
  match q with
  | current => r.current node
  | tick => r.tick node
  | update remote => r.update node remote

end ClockRequest

namespace Report

def ofClock (node stateFile : String) (q : ClockRequest) (value : Nat) : Report where
  document := .object [("node_id", .string node), ("operation", .string q.name),
    ("value", .nat value)]
  text := detail "Node" node ++ detail "Clock" (Text.decimal value) ++ detail "State" stateFile

end Report
end EventLedger
