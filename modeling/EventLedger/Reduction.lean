import EventLedger.Reduction.Collaboration
import EventLedger.Reduction.Connector
import EventLedger.Reduction.DecisionPoint
import EventLedger.Reduction.Glossary
import EventLedger.Reduction.Lifecycle
import EventLedger.Reduction.MissionAudit
import EventLedger.Reduction.MissionNext
import EventLedger.Reduction.Status
import EventLedger.Reduction.Sync

namespace EventLedger

structure Folded where
  members : List (String × Json)
  eventCount : Nat
  anomalies : List Anomaly
  samples : List Metrics.Sample

namespace Projection

def folded (p : Projection σ) (members : σ → List (String × Json)) (events : List Event) : Folded :=
  let (snapshot, samples) := p.run events
  ⟨snapshot.members members, snapshot.eventCount, snapshot.anomalies, samples⟩

end Projection

namespace Domain

def State : Domain → Type
  | .status => Status.State
  | .lifecycle => Lifecycle.State
  | .missionAudit => MissionAudit.State
  | .decisionPoint => DecisionPoint.State
  | .connector => Connector.State
  | .sync => Sync.State
  | .missionNext => MissionNext.State
  | .collaboration => Collaboration.State
  | .glossary => Glossary.State

def projection : (d : Domain) → Projection d.State
  | .status => Status.projection
  | .lifecycle => Lifecycle.projection
  | .missionAudit => MissionAudit.projection
  | .decisionPoint => DecisionPoint.projection
  | .connector => Connector.projection
  | .sync => Sync.projection
  | .missionNext => MissionNext.projection
  | .collaboration => Collaboration.projection
  | .glossary => Glossary.projection

def members : (d : Domain) → d.State → List (String × Json)
  | .status => Status.State.members
  | .lifecycle => Lifecycle.State.members
  | .missionAudit => MissionAudit.State.members
  | .decisionPoint => DecisionPoint.State.members
  | .connector => Connector.State.members
  | .sync => Sync.State.members
  | .missionNext => MissionNext.State.members
  | .collaboration => Collaboration.State.members
  | .glossary => Glossary.State.members

def fold (d : Domain) (events : List Event) : Folded := d.projection.folded d.members events

end Domain
end EventLedger
