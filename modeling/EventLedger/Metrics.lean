import EventLedger.Anomaly
import EventLedger.ErrorCode

namespace EventLedger
namespace Metrics

inductive ClockOperation where
  | tick
  | update
deriving DecidableEq, Repr

def ClockOperation.name : ClockOperation → String
  | .tick => "tick"
  | .update => "update"

inductive Sample where
  | error (code : ErrorCode)
  | reduction (domain : Domain)
  | folded (domain : Domain) (events : Nat)
  | duplicates (domain : Domain) (events : Nat)
  | anomaly (domain : Domain) (kind : AnomalyKind)
  | clock (operation : ClockOperation)
  | merge (manualReview : Bool)
deriving DecidableEq, Repr

structure Series where
  metric : String
  labels : List (String × String)
deriving DecidableEq, Repr

def Series.text (s : Series) : String :=
  s.metric ++ "\x7b" ++ ",".intercalate (s.labels.map fun l => l.1 ++ "=" ++ l.2) ++ "\x7d"

inductive Effect where
  | count (series : Series) (amount : Nat)
  | value (series : Series) (value : Nat)
deriving DecidableEq, Repr

def Sample.effect : Sample → Effect
  | .error code =>
    .count ⟨"missionlog_errors_total", [("category", code.category), ("code", code.name)]⟩ 1
  | .reduction d => .count ⟨"missionlog_reductions_total", [("domain", d.name)]⟩ 1
  | .folded d n => .value ⟨"missionlog_events_folded", [("domain", d.name)]⟩ n
  | .duplicates d n => .count ⟨"missionlog_duplicates_dropped_total", [("domain", d.name)]⟩ n
  | .anomaly d k =>
    .count ⟨"missionlog_anomalies_total", [("domain", d.name), ("kind", k.name)]⟩ 1
  | .clock op => .count ⟨"missionlog_clock_operations_total", [("operation", op.name)]⟩ 1
  | .merge review =>
    .count ⟨"missionlog_merges_total", [("manual_review", if review then "true" else "false")]⟩ 1

def total (series : Series) (samples : List Sample) : Nat :=
  (samples.map fun s =>
    match s.effect with
    | .count other n => if other = series then n else 0
    | .value _ _ => 0).foldr (· + ·) 0

def values (series : Series) (samples : List Sample) : List Nat :=
  samples.filterMap fun s =>
    match s.effect with
    | .count _ _ => none
    | .value other n => if other = series then some n else none

def counted (samples : List Sample) : List Series :=
  (samples.filterMap fun s =>
    match s.effect with
    | .count series _ => some series
    | .value _ _ => none).eraseDups

def measured (samples : List Sample) : List Series :=
  (samples.filterMap fun s =>
    match s.effect with
    | .count _ _ => none
    | .value series _ => some series).eraseDups

def descriptions : List (String × String) :=
  [("missionlog_reductions_total", "Total number of reductions by domain"),
    ("missionlog_events_folded", "Events folded per reduction"),
    ("missionlog_duplicates_dropped_total", "Input events collapsed by event_id deduplication"),
    ("missionlog_anomalies_total", "Anomalies recorded during reduction"),
    ("missionlog_clock_operations_total", "Lamport clock tick/update operations"),
    ("missionlog_merges_total", "State machine merges performed"),
    ("missionlog_errors_total", "Errors by code and category")]

end Metrics

def Refusal.samples : Refusal → List Metrics.Sample
  | .unknownLane _ => [.error .unknownLane]
  | _ => []

end EventLedger
