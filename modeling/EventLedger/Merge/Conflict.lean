import EventLedger.Concurrency

namespace EventLedger.Event

structure ConflictKey where
  clock : Nat
  aggregateId : String
deriving DecidableEq, Repr

def conflictKey (e : Event) : ConflictKey := ⟨e.lamportClock, e.aggregateId⟩

namespace ConflictKey

def before (a b : ConflictKey) : Bool :=
  a.clock < b.clock || (a.clock == b.clock && a.aggregateId < b.aggregateId)

end ConflictKey

def conflictKeys (events : List Event) : List ConflictKey :=
  (events.map conflictKey).eraseDups.mergeSort fun a b => !b.before a

def conflictMembers (canonical : List Event) (key : ConflictKey) : List Event :=
  let bucket := canonical.filter fun e => e.conflictKey = key
  bucket.filter fun e => bucket.any fun other => e.isConcurrent other

def conflicts (events : List Event) : List (List Event) :=
  let canonical := canonicalize events
  ((conflictKeys canonical).map (conflictMembers canonical)).filter fun g => 2 ≤ g.length

end EventLedger.Event
