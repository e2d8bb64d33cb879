import EventLedger.Proofs.Reduction.Folding

/-! Projections that keep one record for each entity. What a fold makes of an entity, and finds about
it, comes of the events that name it. -/

namespace EventLedger

/-- How a state is a family of records: an event goes to the record of the entity that its payload
    names and to no other, unless it was dismissed before the fold. -/
structure Family {σ : Type} (p : Projection σ) (ρ : Type) where
  names : Payload → Option String
  record? : σ → String → Option ρ
  dismissed : σ → Event → Bool
  names_kind : ∀ {x k}, names x = some k → x.kind ∈ p.kinds
  record?_start : ∀ seen k, record? (p.start seen) k = none
  dismissed_step : ∀ s e x, dismissed (p.step s e x).1 = dismissed s
  record?_other : ∀ {s e x k}, names x ≠ some k → record? (p.step s e x).1 k = record? s k
  step_local : ∀ {s t e x k}, names x = some k → dismissed s e = dismissed t e →
    record? s k = record? t k →
      record? (p.step s e x).1 k = record? (p.step t e x).1 k ∧ (p.step s e x).2 = (p.step t e x).2

namespace Family

variable {σ ρ : Type} {p : Projection σ} (F : Family p ρ) {k : String}

/-- The events that name an entity. -/
def own (k : String) (events : List (Event × Payload)) : List (Event × Payload) :=
  events.filter fun x => F.names x.2 = some k

theorem own_cons_named {x : Event × Payload} (named : F.names x.2 = some k)
    (rest : List (Event × Payload)) : F.own k (x :: rest) = x :: F.own k rest :=
  List.filter_cons_of_pos (decide_eq_true named)

theorem own_cons_other {x : Event × Payload} (other : F.names x.2 ≠ some k)
    (rest : List (Event × Payload)) : F.own k (x :: rest) = F.own k rest :=
  List.filter_cons_of_neg (by simpa using other)

theorem own_append (events later : List (Event × Payload)) :
    F.own k (events ++ later) = F.own k events ++ F.own k later := List.filter_append _ _

theorem names_of_mem_own {x : Event × Payload} {events : List (Event × Payload)}
    (member : x ∈ F.own k events) : F.names x.2 = some k := of_decide_eq_true (List.mem_filter.mp member).2

/-- Before the first event of an entity for which something holds, it holds for none of them. -/
theorem own_find? {found : Event × Payload → Bool} {x : Event × Payload}
    {events : List (Event × Payload)} (first : (F.own k events).find? found = some x) :
    ∃ before after, events = before ++ x :: after ∧ (F.own k before).find? found = none := by
  rw [own, List.find?_filter] at first
  obtain ⟨-, before, after, split, earlier⟩ := List.find?_eq_some_iff_append.mp first
  refine ⟨before, after, split, ?_⟩
  rw [own, List.find?_filter]
  refine List.find?_eq_none.mpr fun y member holds => ?_
  have fails := earlier y member
  rw [holds] at fails
  cases fails

theorem filter_named {x : Event} {ids : List EventId} (present : x.id ∈ ids) (found : List Finding) :
    ((found.map (Anomaly.about x)).filter fun a => a.eventId ∈ ids) = found.map (.about x) := by
  refine List.filter_eq_self.mpr fun a member => ?_
  obtain ⟨f, -, rfl⟩ := List.mem_map.mp member
  exact decide_eq_true present

theorem filter_other {x : Event} {ids : List EventId} (absent : x.id ∉ ids) (found : List Finding) :
    ((found.map (Anomaly.about x)).filter fun a => a.eventId ∈ ids) = [] := by
  refine List.filter_eq_nil_iff.mpr fun a member => ?_
  obtain ⟨f, -, rfl⟩ := List.mem_map.mp member
  exact fun present => absent (of_decide_eq_true present)

/-- Two folds that start with one record of an entity, and dismiss the same of its events, end with
    one record of it when one of them sees all events and the other those that name it. -/
theorem after_own {events : List (Event × Payload)} {ids : List EventId} {s t : σ}
    (mine : ∀ x ∈ events, F.names x.2 = some k ↔ x.1.id ∈ ids)
    (agree : ∀ x ∈ events, F.names x.2 = some k → F.dismissed s x.1 = F.dismissed t x.1)
    (same : F.record? s k = F.record? t k) :
    F.record? (p.after s events) k = F.record? (p.after t (F.own k events)) k ∧
      ((p.findings s events).flatten.filter fun a => a.eventId ∈ ids) =
        (p.findings t (F.own k events)).flatten := by
  induction events generalizing s t with
  | nil => exact ⟨same, rfl⟩
  | cons x rest ih =>
    have mineRest := fun y member => mine y (List.mem_cons_of_mem x member)
    have agreeRest := fun y member => agree y (List.mem_cons_of_mem x member)
    have here := mine x List.mem_cons_self
    rw [Projection.after_cons, Projection.findings_cons, List.flatten_cons, List.filter_append]
    by_cases named : F.names x.2 = some k
    · obtain ⟨stepped, found⟩ :=
        F.step_local named (agree x List.mem_cons_self named) same
      have later := ih mineRest
        (s := (p.step s x.1 x.2).1) (t := (p.step t x.1 x.2).1)
        (fun y member ofK => by
          rw [F.dismissed_step, F.dismissed_step]
          exact agreeRest y member ofK)
        stepped
      rw [F.own_cons_named named, Projection.after_cons, Projection.findings_cons,
        List.flatten_cons, filter_named (here.mp named), found, later.2]
      exact ⟨later.1, rfl⟩
    -- Only the fold of all events takes this step, which passes the entity by.
    · have later := ih mineRest (s := (p.step s x.1 x.2).1) (t := t)
        (fun y member ofK => by
          rw [F.dismissed_step]
          exact agreeRest y member ofK)
        ((F.record?_other named).trans same)
      rw [F.own_cons_other named, filter_other (fun present => named (here.mpr present)),
        List.nil_append]
      exact later

/-- What the events of an entity keep true of its record, each with those before it, holds after a fold
    of all events. -/
theorem own_keeps (Inv : List (Event × Payload) → Option ρ → Prop)
    (step : ∀ t mine y, F.names y.2 = some k → Inv mine (F.record? t k) →
      Inv (mine ++ [y]) (F.record? (p.step t y.1 y.2).1 k))
    {s : σ} {mine : List (Event × Payload)} (start : Inv mine (F.record? s k))
    (events : List (Event × Payload)) :
    Inv (mine ++ F.own k events) (F.record? (p.after s events) k) := by
  induction events generalizing s mine with
  | nil => exact (List.append_nil mine).symm ▸ start
  | cons x rest ih =>
    rw [Projection.after_cons]
    by_cases named : F.names x.2 = some k
    · rw [F.own_cons_named named, List.append_cons]
      exact ih (step s mine x named start)
    · rw [F.own_cons_other named]
      exact ih ((F.record?_other named).symm ▸ start)

/-- Where the first event of an entity settles what its record shows, that stays so. -/
theorem first_shown {β : Type} (view : ρ → β) (gives : Payload → β)
    (step : ∀ s e x, F.names x = some k →
      (F.record? (p.step s e x).1 k).map view = ((F.record? s k).map view).or (some (gives x)))
    (seen events : List (Event × Payload)) :
    (F.record? (p.after (p.start seen) events) k).map view =
      (F.own k events).head?.map fun y => gives y.2 := by
  refine (p.after_first (fun s => (F.record? s k).map view) gives (fun x => F.names x = some k)
    (fun s e x (_ : True) (_ : True) => ⟨trivial, ?_⟩) trivial fun _ _ => trivial).trans ?_
  · split
    · rename_i named
      exact step s e x named
    · rename_i other
      rw [F.record?_other other, Option.or_none]
  · rw [F.record?_start, own, List.head?_filter]
    rfl

/-- Where an event that names an entity always leaves a record of it, there is one exactly if an event
    named it. -/
theorem known_iff (creates : ∀ s e x, F.names x = some k → (F.record? (p.step s e x).1 k).isSome)
    (seen events : List (Event × Payload)) :
    (F.record? (p.after (p.start seen) events) k).isSome ↔ ∃ y ∈ events, F.names y.2 = some k := by
  have start : (F.record? (p.start seen) k).isSome ↔ ([] : List (Event × Payload)) ≠ [] := by
    rw [F.record?_start]
    exact ⟨nofun, fun some => absurd rfl some⟩
  have kept : (F.record? (p.after (p.start seen) events) k).isSome ↔ [] ++ F.own k events ≠ [] := by
    refine F.own_keeps (fun mine r => r.isSome ↔ mine ≠ []) (fun t mine y named _ => ?_) start _
    exact ⟨fun _ => List.append_ne_nil_of_right_ne_nil _ (List.cons_ne_nil _ _),
      fun _ => creates t y.1 y.2 named⟩
  rw [kept, List.nil_append, own, Ne, List.filter_eq_nil_iff]
  simp

end Family
end EventLedger
