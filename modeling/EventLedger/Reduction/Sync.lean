import EventLedger.Index
import EventLedger.Reduction.Basic

namespace EventLedger.Sync

inductive DeliveryStatus where
  | accepted
  | rejected
  | retryScheduled
  | deadLettered
deriving DecidableEq, Repr

namespace DeliveryStatus

def name : DeliveryStatus → String
  | .accepted => "accepted"
  | .rejected => "rejected"
  | .retryScheduled => "retry_scheduled"
  | .deadLettered => "dead_lettered"

def isTerminal : DeliveryStatus → Bool
  | .accepted | .deadLettered => true
  | _ => false

end DeliveryStatus

structure Delivery where
  deliveryId : String
  status : DeliveryStatus
  batchSize : Option Nat := none
  attempts : Nat := 0
  lastBackoffMs : Option Nat := none
  rejectionReasons : List String := []
  lastRetryable : Option Bool := none
  deadLetterReason : Option String := none
deriving DecidableEq, Repr

namespace Delivery

def accept (d : Delivery) (p : Payload.SyncIngestAccepted) : Delivery :=
  { d with status := .accepted, batchSize := some p.batchSize }

def reject (d : Delivery) (p : Payload.SyncIngestRejected) : Delivery :=
  { d with
    status := .rejected, rejectionReasons := d.rejectionReasons ++ [p.reason],
    lastRetryable := some p.retryable }

def retry (d : Delivery) (p : Payload.SyncRetryScheduled) : Delivery × List Finding :=
  ({ d with
      status := .retryScheduled, attempts := max d.attempts p.attempt,
      lastBackoffMs := p.backoffMs },
    if p.attempt ≤ d.attempts then
      [⟨.attemptRegression, "Attempt " ++ Text.decimal p.attempt ++ " for " ++ p.deliveryId ++
        " does not advance past " ++ Text.decimal d.attempts⟩]
    else [])

def bury (d : Delivery) (p : Payload.SyncDeadLettered) : Delivery :=
  { d with
    status := .deadLettered, attempts := max d.attempts p.attempts,
    deadLetterReason := some p.reason }

def toJson (d : Delivery) : Json :=
  .object [("delivery_id", .string d.deliveryId), ("status", .string d.status.name),
    ("batch_size", .nat? d.batchSize), ("attempts", .nat d.attempts),
    ("last_backoff_ms", .nat? d.lastBackoffMs), ("rejection_reasons", .strings d.rejectionReasons),
    ("last_retryable", .optional .bool d.lastRetryable),
    ("dead_letter_reason", .text? d.deadLetterReason)]

end Delivery

structure State where
  deliveries : Index Delivery := .empty

def change (s : State) (e : Event) (id : String) (status : DeliveryStatus)
    (f : Option Delivery → Delivery → Delivery × List Finding) : State × List Finding :=
  let known := s.deliveries.find? id
  let d := known.getD { deliveryId := id, status }
  if known.isSome && d.status.isTerminal then
    (s, [⟨.eventAfterTerminal, e.eventType ++ " after delivery " ++ id ++ " was " ++
      d.status.name⟩])
  else
    let (d, found) := f known d
    (⟨s.deliveries.insert id d⟩, found)

def withoutRejection (known : Option Delivery) (id : String) : List Finding :=
  match known.map Delivery.status with
  | some .rejected | some .retryScheduled => []
  | _ => [⟨.retryWithoutRejection, "Retry scheduled for " ++ id ++ " without a rejection"⟩]

def step (s : State) (e : Event) : Payload → State × List Finding
  | .syncIngestAccepted p => change s e p.deliveryId .accepted fun _ d => (d.accept p, [])
  | .syncIngestRejected p => change s e p.deliveryId .rejected fun _ d => (d.reject p, [])
  | .syncRetryScheduled p =>
    change s e p.deliveryId .retryScheduled fun known d =>
      let (d, found) := d.retry p
      (d, withoutRejection known p.deliveryId ++ found)
  | .syncDeadLettered p => change s e p.deliveryId .deadLettered fun _ d => (d.bury p, [])
  | _ => (s, [])

def kinds : List Kind :=
  [.syncIngestAccepted, .syncIngestRejected, .syncRetryScheduled, .syncDeadLettered]

def projection : Projection State := ⟨.sync, kinds, fun _ => {}, step⟩

structure Totals where
  accepted : Nat := 0
  rejected : Nat := 0
  retryScheduled : Nat := 0
  deadLettered : Nat := 0
  retries : Nat := 0
deriving DecidableEq, Repr

namespace Totals

def countStatus (t : Totals) : DeliveryStatus → Totals
  | .accepted => { t with accepted := t.accepted + 1 }
  | .rejected => { t with rejected := t.rejected + 1 }
  | .retryScheduled => { t with retryScheduled := t.retryScheduled + 1 }
  | .deadLettered => { t with deadLettered := t.deadLettered + 1 }

def add (t : Totals) (d : Delivery) : Totals :=
  let t := t.countStatus d.status
  { t with retries := t.retries + d.attempts }

def toJson (t : Totals) : Json :=
  .object [("accepted", .nat t.accepted), ("rejected", .nat t.rejected),
    ("retry_scheduled", .nat t.retryScheduled), ("dead_lettered", .nat t.deadLettered),
    ("retries", .nat t.retries)]

end Totals

namespace State

def totals (s : State) : Totals := s.deliveries.values.foldl Totals.add {}

def members (s : State) : List (String × Json) :=
  [("deliveries", s.deliveries.toJson Delivery.toJson), ("totals", s.totals.toJson)]

end State
end EventLedger.Sync
