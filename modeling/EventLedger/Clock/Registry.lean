import EventLedger.Clock.Storage
import EventLedger.Event.Draft
import EventLedger.GrowSet
import EventLedger.Metrics
import EventLedger.Number.Bounds
import EventLedger.Text.Quoted

namespace EventLedger

namespace ClockStorage

def greatestValue : Int := greatestSigned64

def advance (node : String) (value : Int) : Except LedgerError Int :=
  if value < greatestValue then .ok (value + 1)
  else .error (.invalidClockValue node "i64 overflow")

def asClock (node : String) (value : Int) : Except LedgerError Nat :=
  if value < 0 then .error (.invalidClockValue node (Text.signedDecimal value))
  else .ok value.toNat

def commit (s : ClockStorage) (node : String) (next : Except LedgerError Int)
    (room : Option Nat := none) : Except LedgerError Nat × ClockStorage :=
  match next with
  | .error e => (.error e, s)
  | .ok value =>
    match s.save node value room with
    | (.error e, s) => (.error e, s)
    | (.ok (), s) => (asClock node value, s)

def tick (s : ClockStorage) (node : String) (room : Option Nat := none) :
    Except LedgerError Nat × ClockStorage :=
  s.commit node (s.load node >>= advance node) room

def update (s : ClockStorage) (node : String) (remote : Nat) (room : Option Nat := none) :
    Except LedgerError Nat × ClockStorage :=
  if greatestValue < remote then (.error (.invalidClockValue node (Text.decimal remote)), s)
  else s.commit node (s.load node >>= fun value => advance node (max value remote)) room

def current (s : ClockStorage) (node : String) : Except LedgerError Nat :=
  s.load node >>= asClock node

end ClockStorage

/-- The clocks over one storage. A clock is there from its first use on. -/
structure ClockRegistry where
  storage : ClockStorage
  nodes : GrowSet

namespace ClockRegistry

def new (s : ClockStorage) : ClockRegistry := ⟨s, .empty⟩

def restart (r : ClockRegistry) : ClockRegistry := new r.storage

def touch (r : ClockRegistry) (node : String) : ClockRegistry :=
  ⟨r.storage, r.nodes.insert node⟩

def tick (r : ClockRegistry) (node : String) : Except LedgerError Nat × ClockRegistry :=
  let (result, s) := r.storage.tick node
  (result, ⟨s, r.nodes.insert node⟩)

def update (r : ClockRegistry) (node : String) (remote : Nat) :
    Except LedgerError Nat × ClockRegistry :=
  let (result, s) := r.storage.update node remote
  (result, ⟨s, r.nodes.insert node⟩)

def current (r : ClockRegistry) (node : String) : Except LedgerError Nat × ClockRegistry :=
  (r.storage.current node, r.touch node)

def stamp (r : ClockRegistry) (node : String) (d : EventDraft) :
    Except LedgerError Event × ClockRegistry :=
  let (result, r) := r.tick node
  (result.map fun value => { d with lamportClock := value, nodeId := node }.event, r)

def describe (node : String) : String :=
  "LamportClock \x7b node_id: " ++ Text.quoted node ++ ", .. \x7d"

end ClockRegistry

namespace Metrics

def ClockOperation.samples (op : ClockOperation) : Except LedgerError α → List Sample
  | .ok _ => [.clock op]
  | .error _ => []

end Metrics
end EventLedger
