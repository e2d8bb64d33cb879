import EventLedger.Reduction
import EventLedger.Report.Basic

namespace EventLedger.Report

def anomalyTable (anomalies : List Anomaly) : Table where
  headings := ["Kind", "Event", "Message"]
  rows := anomalies.map fun a => [a.kind.name, a.eventId.text, a.message]

def anomalyText (anomalies : List Anomaly) : String :=
  if anomalies.isEmpty then success "No anomalies"
  else heading ("Anomalies (" ++ Text.decimal anomalies.length ++ ")") ++
    (anomalyTable anomalies).text

def workPackageTable (s : Status.State) : Table where
  headings := ["WP", "Feature", "Lane", "Actor", "Moves", "Forced"]
  rows := s.workPackages.values.map fun wp =>
    [wp.wpId, wp.featureSlug, wp.lane.name, wp.actor.getD "", Text.decimal wp.transitions,
      Text.decimal wp.forcedTransitions]

def laneText (s : Status.State) : String :=
  " ".intercalate ((s.lanes.entries.filter fun e => 0 < e.2).map fun e =>
    e.1.name ++ "=" ++ Text.decimal e.2)

def stateText (d : Domain) (events : List Event) (folded : Folded) : String :=
  match d with
  | .status =>
    let s := (Status.projection.reduce events).state
    (workPackageTable s).text ++ detail "Lanes" (laneText s)
  | _ => jsonText (.object folded.members)

def ofFold (d : Domain) (events : List Event) : Report :=
  let folded := d.fold events
  { document := .object folded.members
    text := heading (d.name ++ " reduction") ++
      detail "Events folded" (Text.decimal folded.eventCount) ++ stateText d events folded ++
      anomalyText folded.anomalies }

end EventLedger.Report
