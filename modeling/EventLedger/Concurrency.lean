import EventLedger.Order.Basic

namespace EventLedger.Event

/-- Writes to one aggregate with one clock value, of which neither caused the other. -/
def isConcurrent (a b : Event) : Bool :=
  a.aggregateId == b.aggregateId && a.lamportClock == b.lamportClock && a.id != b.id &&
    a.causationId != some b.id && b.causationId != some a.id

end EventLedger.Event
