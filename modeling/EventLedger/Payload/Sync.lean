import EventLedger.Json.Decoder

/-! Payloads of delivery events. -/

namespace EventLedger.Payload

structure SyncIngestAccepted where
  deliveryId : String
  batchSize : Nat
deriving DecidableEq, Repr

namespace SyncIngestAccepted

def record : Record SyncIngestAccepted :=
  Record.of "SyncIngestAccepted" mk
    |>.required "delivery_id" .string
    |>.defaulted "batch_size" .word32 0

def toJson (p : SyncIngestAccepted) : Json :=
  .record [("delivery_id", .string p.deliveryId), ("batch_size", .nat p.batchSize)]

end SyncIngestAccepted

structure SyncIngestRejected where
  deliveryId : String
  reason : String
  retryable : Bool
deriving DecidableEq, Repr

namespace SyncIngestRejected

def record : Record SyncIngestRejected :=
  Record.of "SyncIngestRejected" mk
    |>.required "delivery_id" .string
    |>.defaulted "reason" .string ""
    |>.defaulted "retryable" .boolean false

def toJson (p : SyncIngestRejected) : Json :=
  .record [("delivery_id", .string p.deliveryId), ("reason", .string p.reason),
    ("retryable", .bool p.retryable)]

end SyncIngestRejected

structure SyncRetryScheduled where
  deliveryId : String
  attempt : Nat
  backoffMs : Option Nat
deriving DecidableEq, Repr

namespace SyncRetryScheduled

def record : Record SyncRetryScheduled :=
  Record.of "SyncRetryScheduled" mk
    |>.required "delivery_id" .string
    |>.required "attempt" .word32
    |>.optional "backoff_ms" .word64

def toJson (p : SyncRetryScheduled) : Json :=
  .record [("delivery_id", .string p.deliveryId), ("attempt", .nat p.attempt),
    ("backoff_ms", .nat? p.backoffMs)]

end SyncRetryScheduled

structure SyncDeadLettered where
  deliveryId : String
  reason : String
  attempts : Nat
deriving DecidableEq, Repr

namespace SyncDeadLettered

def record : Record SyncDeadLettered :=
  Record.of "SyncDeadLettered" mk
    |>.required "delivery_id" .string
    |>.defaulted "reason" .string ""
    |>.defaulted "attempts" .word32 0

def toJson (p : SyncDeadLettered) : Json :=
  .record [("delivery_id", .string p.deliveryId), ("reason", .string p.reason),
    ("attempts", .nat p.attempts)]

end SyncDeadLettered

end EventLedger.Payload
