import EventLedger.Index
import EventLedger.Json.Decoder

namespace EventLedger

structure GrowSet (α : Type := String) [LT α] where
  index : Index Unit α

namespace GrowSet

section Elements

variable {α : Type} [LT α]

def empty : GrowSet α := ⟨.empty⟩

def toList (s : GrowSet α) : List α := s.index.names

def size (s : GrowSet α) : Nat := s.toList.length

def isEmpty (s : GrowSet α) : Bool := s.toList.isEmpty

variable [DecidableEq α]

def contains (s : GrowSet α) (x : α) : Bool := s.index.contains x

variable [DecidableLT α] [LE α] [Std.IsLinearOrder α] [Std.LawfulOrderLT α]

def insert (s : GrowSet α) (x : α) : GrowSet α := ⟨s.index.insert x ()⟩

def extend (s : GrowSet α) (xs : List α) : GrowSet α := xs.foldl insert s

def ofList (xs : List α) : GrowSet α := empty.extend xs

def merge (s t : GrowSet α) : GrowSet α := s.extend t.toList

def decoder (item : Decoder α) : Decoder (GrowSet α) := fun v => (Decoder.list item v).map ofList

end Elements

def toJson (s : GrowSet) : Json := .strings s.toList

end GrowSet
end EventLedger
