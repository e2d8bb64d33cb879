import EventLedger.Order.Basic

namespace EventLedger.Event

/-- Whether an event is what another one names as its cause. No event causes itself. -/
def causes (c e : Event) : Bool := e.causationId == some c.id && c.id != e.id

def cause? (events : List Event) (e : Event) : Option Event := events.find? fun c => c.causes e

/-- The events that are not placed yet: those that are next in turn, in ascending order of their keys,
    and those whose cause is not placed, in canonical order. -/
structure Frontier where
  ready : List Event
  waiting : List Event

namespace Frontier

def start (canonical : List Event) : Frontier :=
  { ready := canonical.filter fun e => (cause? canonical e).isNone
    waiting := canonical.filter fun e => (cause? canonical e).isSome }

def release (f : Frontier) (e : Event) : Frontier :=
  { ready := f.ready.merge (f.waiting.filter e.causes) fun a b => !b.orderKey.before a.orderKey
    waiting := f.waiting.filter fun w => !e.causes w }

def size (f : Frontier) : Nat := f.ready.length + f.waiting.length

theorem size_release (f : Frontier) (e : Event) : (f.release e).size = f.size := by
  have split := List.length_eq_countP_add_countP e.causes (l := f.waiting)
  simp only [List.countP_eq_length_filter, Bool.not_eq_true, Bool.decide_eq_false] at split
  simp only [size, release, List.length_merge]
  omega

def place : Frontier → List Event
  | ⟨[], _⟩ => []
  | ⟨e :: ready, waiting⟩ => e :: place (release ⟨ready, waiting⟩ e)
termination_by f => f.size
decreasing_by
  rw [size_release]
  simp only [size, List.length_cons]
  omega

end Frontier

/-- Each event after the one that caused it, otherwise in canonical order. Events that wait for a
    cycle of causes come last. -/
def topologicalOrder (events : List Event) : List Event :=
  let canonical := canonicalize events
  let placed := (Frontier.start canonical).place
  placed ++ canonical.filter fun e => !placed.any fun p => p.id == e.id

end EventLedger.Event
