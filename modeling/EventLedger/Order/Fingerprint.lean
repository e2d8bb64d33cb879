import EventLedger.Digest.Sha256
import EventLedger.Order.Basic

namespace EventLedger.Event

def fingerprintInput (events : List Event) : List UInt8 :=
  (canonicalize events).flatMap fun e => e.id.text.toUTF8.toList ++ [10]

def fingerprint (events : List Event) : String :=
  Text.hexBytes (Sha256.digest (fingerprintInput events))

end EventLedger.Event
