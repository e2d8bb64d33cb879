import EventLedger.Proofs.Outcome
import EventLedger.Proofs.Reduction.Screening

/-! What a domain folds of a log: the events of its kinds whose payload can be read. -/

namespace EventLedger

theorem Payload.kind_of_decode {k : Kind} {v : Json} {x : Payload} (read : decode k v = .ok x) :
    x.kind = k := by
  cases k <;> (obtain ⟨_, -, rfl⟩ := map_eq_ok.mp read; rfl)

/-- The payload of an event of the catalog, where it can be read. -/
def Event.decoded? (e : Event) : Option Payload :=
  e.kind?.bind fun k => (Payload.decode k e.payload).toOption

theorem Event.decoded?_eq_some {e : Event} {x : Payload} :
    e.decoded? = some x ↔ e.kind? = some x.kind ∧ Payload.decode x.kind e.payload = .ok x := by
  simp only [decoded?, Option.bind_eq_some_iff, toOption_eq_some]
  constructor
  · rintro ⟨k, kind, read⟩
    rw [Payload.kind_of_decode read]
    exact ⟨kind, read⟩
  · rintro ⟨kind, read⟩
    exact ⟨x.kind, kind, read⟩

namespace Projection

variable {σ : Type} (p : Projection σ)

/-- What is folded of an event, if it is. -/
theorem payload?_sift (e : Event) :
    (p.sift e).payload? = e.decoded?.filter fun x => p.kinds.contains x.kind := by
  rw [sift, Sifted.ofEvent, Event.decoded?]
  cases e.kind? with
  | none =>
    dsimp only
    split <;> rfl
  | some k =>
    dsimp only [Option.bind_some]
    cases read : Payload.decode k e.payload with
    | ok x =>
      have kind := Payload.kind_of_decode read
      by_cases folds : p.kinds.contains k = true
      · simp only [folds, if_true, Sifted.payload?, Except.toOption, Option.filter_some, kind]
      · simp only [folds, if_false, Sifted.payload?, Except.toOption, Option.filter_some, kind,
          Bool.false_eq_true]
    | error r =>
      split <;> rfl

theorem mem_relevant {events : List Event} {e : Event} {x : Payload} :
    (e, x) ∈ p.relevant events ↔ e ∈ events ∧ e.decoded? = some x ∧ x.kind ∈ p.kinds := by
  have folded (d : Event) : (Sifted.ofEvent p.domain p.kinds d).payload? =
      d.decoded?.filter fun x => p.kinds.contains x.kind := p.payload?_sift d
  simp only [relevant, folded, List.mem_filterMap, Option.map_eq_some_iff,
    Option.filter_eq_some_iff, List.contains_iff_mem, Prod.mk.injEq]
  constructor
  · rintro ⟨d, member, y, read, rfl, rfl⟩
    exact ⟨member, read⟩
  · rintro ⟨member, read⟩
    exact ⟨e, member, x, read, rfl, rfl⟩

theorem relevant_events (events : List Event) : ((p.relevant events).map Prod.fst).Sublist events := by
  unfold relevant
  induction events with
  | nil => exact .slnil
  | cons e events ih =>
    rw [List.filterMap_cons]
    cases (Sifted.ofEvent p.domain p.kinds e).payload? with
    | none => exact ih.cons e
    | some x => exact ih.cons_cons e

theorem complaint?_of_decoded {e : Event} {x : Payload} (read : e.decoded? = some x) :
    p.complaint? e = none := by
  obtain ⟨kind, decoded⟩ := Event.decoded?_eq_some.mp read
  rw [complaint?, sift, Sifted.ofEvent, kind]
  dsimp only
  split
  · rw [decoded]
    rfl
  · rfl

end Projection
end EventLedger
