import EventLedger.GrowSet
import EventLedger.Json.Printer
import EventLedger.Number.Bounds
import EventLedger.Order.Basic

namespace EventLedger.Event

def elementText : Json → String
  | .string s => s
  | v => v.text

/-- The elements that a field adds to a set: the items of a list, or the value itself; null adds
    nothing. -/
def elements : Option Json → List String
  | none | some .null => []
  | some (.array items) =>
    (items.filter fun v => match v with | .null => false | _ => true).map elementText
  | some v => [elementText v]

def mergeSet (events : List Event) (field : String) : GrowSet :=
  (canonicalize events).foldl (fun s e => s.extend (elements (e.payload.get? field))) .empty

def totalFloor : Int := leastSigned64

def totalCeiling : Int := greatestSigned64

def saturatingAdd (a b : Int) : Int := max totalFloor (min totalCeiling (a + b))

def delta? : Option Json → Option Int
  | some (.number (.integer i)) => if totalFloor ≤ i ∧ i ≤ totalCeiling then some i else none
  | _ => none

def mergeCounter (events : List Event) (field : String) : Int :=
  ((canonicalize events).filterMap fun e => delta? (e.payload.get? field)).foldl saturatingAdd 0

end EventLedger.Event
