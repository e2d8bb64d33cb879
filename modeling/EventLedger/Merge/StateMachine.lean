import EventLedger.Merge.StatePriority

namespace EventLedger

structure MergeResolution where
  winner : EventId
  winningState : Option String
  winningPriority : Int
  conflictingEvents : List EventId
  resolution : String
  requiresManualReview : Bool
deriving DecidableEq, Repr

namespace MergeResolution

def toJson (r : MergeResolution) : Json :=
  .object [("winner", .string r.winner.text), ("winning_state", .text? r.winningState),
    ("winning_priority", .int r.winningPriority),
    ("conflicting_events", .strings (r.conflictingEvents.map (·.text))),
    ("resolution", .string r.resolution),
    ("requires_manual_review", .bool r.requiresManualReview)]

end MergeResolution

namespace StatePriority

def below (p : StatePriority) (a b : Event) : Bool :=
  p.rankOf a < p.rankOf b || (p.rankOf a == p.rankOf b && a.orderKey.before b.orderKey)

def ranking (p : StatePriority) (events : List Event) : List Event :=
  events.mergeSort fun a b => !p.below a b

def resolutionText (state : String) (rank : Int) (winner : EventId) (count : Nat) (tie : Bool) :
    String :=
  if tie then
    "Priority tie at " ++ Text.signedDecimal rank ++ " across " ++ Text.decimal count ++
      " events; selected '" ++ state ++ "' from " ++ winner.text ++ " by latest order key"
  else
    "Selected '" ++ state ++ "' (priority " ++ Text.signedDecimal rank ++ ") from " ++ winner.text ++
      " by state priority over " ++ Text.decimal count ++ " events"

def resolution (p : StatePriority) (canonical : List Event) (winner : Event)
    (runnerUp : Option Event) : MergeResolution :=
  let state := p.resolvedState? winner
  let rank := p.rankOf winner
  let tie := runnerUp.any fun e => p.rankOf e = rank
  { winner := winner.id
    winningState := state
    winningPriority := rank
    conflictingEvents := canonical.map (·.id)
    resolution := resolutionText (state.getD "<none>") rank winner.id canonical.length tie
    requiresManualReview := tie }

/-- Picks the event whose state ranks highest. When others share its rank, the latest of them wins
    and the outcome is to be reviewed. -/
def merge (p : StatePriority) (events : List Event) : Except LedgerError MergeResolution :=
  let canonical := Event.canonicalize events
  match p.ranking canonical with
  | [] => .error .emptyConflictSet
  | winner :: others => .ok (p.resolution canonical winner others.head?)

end StatePriority

namespace MergeResolution

def samples (r : MergeResolution) : List Metrics.Sample := [.merge r.requiresManualReview]

end MergeResolution
end EventLedger
