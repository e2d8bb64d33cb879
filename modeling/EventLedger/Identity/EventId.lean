import EventLedger.Identity.Ulid

namespace EventLedger

/-- The identity of an event: a ULID where events are made here, any text in what is received. -/
structure EventId where
  text : String
deriving DecidableEq, Repr

namespace EventId

def ofUlid (u : Ulid) : EventId := ⟨u.text⟩

def parse (s : String) : Except Ulid.Problem EventId := (Ulid.parse s).map ofUlid

def isUlid (id : EventId) : Bool := (Ulid.parse id.text).toOption.isSome

end EventId
end EventLedger
