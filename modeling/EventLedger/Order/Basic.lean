import EventLedger.Event.Basic

namespace EventLedger

/-- Events are ordered by clock, then node, then id, so different ids are never level. -/
structure OrderKey where
  clock : Nat
  node : String
  id : EventId
deriving DecidableEq, Repr

namespace OrderKey

def before (a b : OrderKey) : Bool :=
  a.clock < b.clock ||
    (a.clock == b.clock && (a.node < b.node || (a.node == b.node && a.id.text < b.id.text)))

end OrderKey

namespace Event

def orderKey (e : Event) : OrderKey := ⟨e.lamportClock, e.nodeId, e.id⟩

/-- Events in ascending order of their keys; copies with one key keep their places. -/
def sort (events : List Event) : List Event :=
  events.mergeSort fun a b => !b.orderKey.before a.orderKey

/-- Whether a copy takes the place of the one kept so far: its key is smaller, or the keys are
    equal and its text is greater. -/
def supersedes (candidate kept : Event) : Bool :=
  if candidate.orderKey.before kept.orderKey then true
  else if kept.orderKey.before candidate.orderKey then false
  else !candidate.same kept && kept.text < candidate.text

def keep (kept : List Event) (e : Event) : List Event :=
  match kept with
  | [] => [e]
  | k :: rest =>
    if k.id = e.id then (if e.supersedes k then e else k) :: rest else k :: keep rest e

def dedup (events : List Event) : List Event := events.foldl keep []

def canonicalize (events : List Event) : List Event := dedup (sort events)

end Event
end EventLedger
