import EventLedger.Merge.Conflict
import EventLedger.Merge.StateMachine
import EventLedger.Report.Basic

namespace EventLedger.Report

structure Resolved where
  key : Event.ConflictKey
  resolution : MergeResolution

namespace Resolved

def ofGroup (p : StatePriority) (group : List Event) : Option Resolved := do
  let first ← group.head?
  let resolution ← (p.merge group).toOption
  some ⟨first.conflictKey, resolution⟩

def toJson (g : Resolved) : Json :=
  .object [("lamport_clock", .nat g.key.clock), ("aggregate_id", .string g.key.aggregateId),
    ("resolution", g.resolution.toJson)]

def row (g : Resolved) : List String :=
  [Text.decimal g.key.clock, g.key.aggregateId,
    Text.decimal g.resolution.conflictingEvents.length, g.resolution.winner.text,
    g.resolution.winningState.getD "-",
    if g.resolution.requiresManualReview then "manual" else "auto"]

end Resolved

def ofConflicts (p : StatePriority) (events : List Event) : Report :=
  let groups := (Event.conflicts events).filterMap (Resolved.ofGroup p)
  let manual := groups.countP fun g => g.resolution.requiresManualReview
  let table : Table :=
    ⟨["Clock", "Aggregate", "Events", "Winner", "State", "Review"], groups.map Resolved.row⟩
  { document := .array (groups.map Resolved.toJson)
    text := table.text
    warnings := if manual = 0 then [] else [Text.decimal manual ++ " group(s) need manual review"] }

end EventLedger.Report
