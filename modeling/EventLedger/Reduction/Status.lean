import EventLedger.Concurrency
import EventLedger.Index
import EventLedger.Reduction.Basic
import EventLedger.Text.Blank

namespace EventLedger

def Lane.allows : Lane → Lane → Bool
  | .planned, .claimed | .planned, .blocked | .planned, .canceled => true
  | .claimed, .inProgress | .claimed, .planned | .claimed, .blocked | .claimed, .canceled => true
  | .inProgress, .forReview | .inProgress, .planned | .inProgress, .blocked
  | .inProgress, .canceled => true
  | .forReview, .done | .forReview, .inProgress | .forReview, .planned | .forReview, .blocked
  | .forReview, .canceled => true
  | .blocked, .planned | .blocked, .claimed | .blocked, .inProgress | .blocked, .canceled => true
  | _, _ => false

namespace Status

open Payload (WpStatusChanged)

def isRollback (c : WpStatusChanged) : Bool :=
  c.fromLane == .forReview && c.toLane == .inProgress && c.reviewRef.isSome

def isCompletion (c : WpStatusChanged) : Bool := c.fromLane == .forReview && c.toLane == .done

structure WorkPackage where
  wpId : String
  featureSlug : String
  lane : Lane
  actor : Option String
  reviewRef : Option String
  executionMode : Option String
  transitions : Nat
  forcedTransitions : Nat
  lastEventId : Option EventId
deriving DecidableEq, Repr

namespace WorkPackage

def planned (c : WpStatusChanged) : WorkPackage :=
  ⟨c.wpId, c.featureSlug, .planned, none, none, none, 0, 0, none⟩

def move (wp : WorkPackage) (id : EventId) (c : WpStatusChanged) : WorkPackage where
  wpId := wp.wpId
  featureSlug := wp.featureSlug
  lane := c.toLane
  actor := some c.actor
  reviewRef := c.reviewRef.or wp.reviewRef
  executionMode := c.executionMode.or wp.executionMode
  transitions := wp.transitions + 1
  forcedTransitions := if c.force then wp.forcedTransitions + 1 else wp.forcedTransitions
  lastEventId := some id

def toJson (wp : WorkPackage) : Json :=
  .object [("wp_id", .string wp.wpId), ("feature_slug", .string wp.featureSlug),
    ("lane", wp.lane.toJson), ("actor", .text? wp.actor), ("review_ref", .text? wp.reviewRef),
    ("execution_mode", .text? wp.executionMode), ("transitions", .nat wp.transitions),
    ("forced_transitions", .nat wp.forcedTransitions),
    ("last_event_id", .optional (fun id => .string id.text) wp.lastEventId)]

end WorkPackage

structure State where
  workPackages : Index WorkPackage
  superseded : List EventId

def changes (events : List (Event × Payload)) : List (Event × WpStatusChanged) :=
  events.filterMap fun ep =>
    match ep.2 with
    | .wpStatusChanged c => some (ep.1, c)
    | _ => none

def superseded (cs : List (Event × WpStatusChanged)) : List EventId :=
  (cs.filter fun f =>
    isCompletion f.2 && cs.any fun r =>
      isRollback r.2 && r.2.wpId == f.2.wpId && f.1.isConcurrent r.1).map (·.1.id)

def start (events : List (Event × Payload)) : State := ⟨.empty, superseded (changes events)⟩

def mismatch (lane : Lane) (c : WpStatusChanged) : List Finding :=
  if c.fromLane = lane then []
  else
    [⟨.fromLaneMismatch, c.wpId ++ " claims from_lane " ++ c.fromLane.name ++ " but is in " ++
      lane.name⟩]

def withoutReason (c : WpStatusChanged) : List Finding :=
  if (c.reason.map Text.isBlankText).getD true then
    [⟨.forceWithoutReason, "Forced move of " ++ c.wpId ++ " to " ++ c.toLane.name ++
      " has no reason"⟩]
  else []

def apply (s : State) (e : Event) (c : WpStatusChanged) : State × List Finding :=
  if s.superseded.contains e.id then
    (s, [⟨.supersededByRollback,
      c.wpId ++ " for_review -> done superseded by a concurrent reviewer rollback"⟩])
  else
    let wp := (s.workPackages.find? c.wpId).getD (.planned c)
    let moved := { s with workPackages := s.workPackages.insert c.wpId (wp.move e.id c) }
    if c.force then (moved, mismatch wp.lane c ++ withoutReason c)
    else if wp.lane.isTerminal then
      ({ s with workPackages := s.workPackages.insert c.wpId wp },
        mismatch wp.lane c ++ [⟨.eventAfterTerminal, c.wpId ++ " is " ++ wp.lane.name ++
          "; move to " ++ c.toLane.name ++ " ignored"⟩])
    else if wp.lane.allows c.toLane then (moved, mismatch wp.lane c)
    else
      (moved, mismatch wp.lane c ++ [⟨.invalidTransition, c.wpId ++ " cannot move " ++
        wp.lane.name ++ " -> " ++ c.toLane.name⟩])

def step (s : State) (e : Event) : Payload → State × List Finding
  | .wpStatusChanged c => apply s e c
  | _ => (s, [])

def kinds : List Kind := [.wpStatusChanged]

def projection : Projection State := ⟨.status, kinds, start, step⟩

namespace State

def lanes (s : State) : Index Nat Lane :=
  s.workPackages.values.foldl (fun lanes wp => lanes.increment wp.lane)
    (.ofList (Lane.all.map fun l => (l, 0)))

def inLane (s : State) (l : Lane) : Nat := (s.lanes.find? l).getD 0

def laneOf? (s : State) (wpId : String) : Option Lane :=
  (s.workPackages.find? wpId).map (·.lane)

def members (s : State) : List (String × Json) :=
  [("work_packages", s.workPackages.toJson WorkPackage.toJson),
    ("summary", .object (s.lanes.entries.map fun e => (e.1.name, .nat e.2)))]

end State
end Status
end EventLedger
