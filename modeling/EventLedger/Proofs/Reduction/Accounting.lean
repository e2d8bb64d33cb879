import EventLedger.Proofs.Order.Canonical
import EventLedger.Proofs.Reduction.Vocabulary
import Mathlib

/-! Every event of the canonical sequence has one place: it is folded or found malformed by the
domain of its kind, found unrecognized by the domain that claims its type, or of no domain at all. -/

namespace EventLedger

/-- The anomalies of one kind. -/
def Snapshot.ofKind {σ : Type} (s : Snapshot σ) (k : AnomalyKind) : List Anomaly :=
  s.anomalies.filter fun a => a.kind = k

/-- Counts add up where each element is counted as often on one side as on the other. -/
theorem countP_add {α : Type} {p q r : α → Bool}
    (each : ∀ a, (if p a then 1 else 0) + (if q a then 1 else 0) = if r a then 1 else 0)
    (l : List α) : l.countP p + l.countP q = l.countP r := by
  induction l with
  | nil => rfl
  | cons a l ih =>
    have now := each a
    rw [List.countP_cons, List.countP_cons, List.countP_cons]
    omega

/-- Each element counts for one of the keys. -/
theorem sum_countP {α κ : Type} [DecidableEq κ] {keys : List κ}
    (once : ∀ k, (keys.map fun key => if k = key then 1 else 0).sum = 1) (f : α → κ) (l : List α) :
    (keys.map fun key => l.countP fun a => f a = key).sum = l.length := by
  induction l with
  | nil => simp
  | cons a l ih =>
    have now := once (f a)
    simp only [List.countP_cons, decide_eq_true_eq, List.sum_map_add, List.length_cons]
    omega

namespace Domain

theorem projection_domain (d : Domain) : d.projection.domain = d := by cases d <;> rfl

theorem projection_kinds (d : Domain) : d.projection.kinds = Kind.ofDomain d := by
  cases d <;> decide

theorem not_uncatalogued_of_catalogs {d : Domain} {s : String} (listed : d.Catalogs s) :
    ¬ Uncatalogued s := by
  obtain ⟨k, named, -⟩ := listed
  exact fun uncatalogued => uncatalogued k named

/-- What each outcome of the sifting says of the event's type. -/
def Sifts (d : Domain) (e : Event) : Sifted → Prop
  | .relevant _ | .malformed _ _ => d.Catalogs e.eventType
  | .unrecognized => Uncatalogued e.eventType ∧ d.OwnsLongestStem e.eventType
  | .foreign =>
    ¬ d.Catalogs e.eventType ∧ ¬ (Uncatalogued e.eventType ∧ d.OwnsLongestStem e.eventType)

theorem sift_spec (d : Domain) (e : Event) : d.Sifts e (d.projection.sift e) := by
  rw [Projection.sift, Sifted.ofEvent, projection_domain, projection_kinds]
  cases kind : e.kind? with
  | some k =>
    have named : k.name = e.eventType := Kind.ofName?_eq_some.mp kind
    simp only [List.contains_iff_mem, Kind.mem_ofDomain]
    split
    · rename_i home
      cases Payload.decode k e.payload <;> exact ⟨k, named, home⟩
    · rename_i away
      constructor
      · rintro ⟨k', named', home⟩
        have same : k = k' := by
          rw [← Option.some_inj, ← Kind.ofName?_name, named, ← named', Kind.ofName?_name]
        exact away (same ▸ home)
      · exact fun stray => stray.1 k named
  | none =>
    have uncatalogued : Uncatalogued e.eventType := Kind.ofName?_eq_none.mp kind
    dsimp only
    split
    · rename_i claimed
      exact ⟨uncatalogued, claiming_eq_some.mp claimed⟩
    · rename_i other
      constructor
      · exact fun listed => not_uncatalogued_of_catalogs listed uncatalogued
      · exact fun stray => other (claiming_eq_some.mpr stray.2)

theorem eventCount_eq (d : Domain) (events : List Event) :
    (d.projection.reduce events).eventCount =
      (Event.canonicalize events).countP fun e => (d.projection.sift e).payload?.isSome := by
  have folded : (d.projection.reduce events).eventCount =
      (d.projection.relevant (Event.canonicalize events)).length := rfl
  rw [folded, Projection.relevant, List.length_filterMap_eq_countP]
  simp only [Option.isSome_map]
  rfl

theorem not_isScreened_of_reported {d : Domain} {events : List (Event × Payload)} {a : Anomaly}
    (reported : d.projection.Reported events a) : ¬ a.kind.IsScreened := by
  obtain ⟨x, -, s, f, found, rfl⟩ := reported
  exact not_isScreened_of_mem_vocabulary (d.step_reports s x.1 x.2 f found)

theorem ofKind_screened (d : Domain) (events : List Event) {k : AnomalyKind} (screened : k.IsScreened) :
    (d.projection.reduce events).ofKind k =
      ((Event.canonicalize events).filterMap d.projection.complaint?).filter fun a => a.kind = k := by
  obtain ⟨found, anomalies, origin⟩ := d.projection.reduce_anomalies events
  have nothing : (found.filter fun a => a.kind = k) = [] := by
    rw [List.filter_eq_nil_iff]
    intro a member
    have other := not_isScreened_of_reported (origin a member)
    simp only [decide_eq_true_eq]
    exact fun same => other (same ▸ screened)
  rw [Snapshot.ofKind, anomalies, List.filter_append, nothing, List.append_nil]

theorem complaint?_isScreened {d : Domain} {e : Event} {a : Anomaly}
    (screened : d.projection.complaint? e = some a) : a.kind.IsScreened ∧ a.eventId = e.id := by
  obtain ⟨f, found, rfl⟩ := Option.map_eq_some_iff.mp screened
  exact ⟨Sifted.finding?_isScreened found, rfl⟩

/-- What is not screened out was found by the fold. -/
theorem filter_folded (d : Domain) (events : List Event) {odd : Anomaly → Bool}
    (unscreened : ∀ a, odd a = true → ¬ a.kind.IsScreened) :
    (d.projection.reduce events).anomalies.filter odd =
      (d.projection.findings (d.projection.start (d.projection.relevant (Event.canonicalize events)))
        (d.projection.relevant (Event.canonicalize events))).flatten.filter odd := by
  have nothing : ((Event.canonicalize events).filterMap d.projection.complaint?).filter odd = [] := by
    refine List.filter_eq_nil_iff.mpr fun a member held => ?_
    obtain ⟨e, -, screened⟩ := List.mem_filterMap.mp member
    exact unscreened a held (complaint?_isScreened screened).1
  rw [d.projection.reduce_entries, List.filter_append, nothing, List.nil_append]

theorem ofKind_folded (d : Domain) (events : List Event) {k : AnomalyKind}
    (unscreened : ¬ k.IsScreened) :
    (d.projection.reduce events).ofKind k =
      (d.projection.findings (d.projection.start (d.projection.relevant (Event.canonicalize events)))
        (d.projection.relevant (Event.canonicalize events))).flatten.filter fun a => a.kind = k :=
  d.filter_folded events fun _ same => of_decide_eq_true same ▸ unscreened

/-- A fold finds nothing odd where whatever is recorded was screened out before it. -/
theorem screened_only_iff (d : Domain) (events : List Event) :
    (∀ a ∈ (d.projection.reduce events).anomalies, a.kind.IsScreened) ↔
      (d.projection.findings (d.projection.start (d.projection.relevant (Event.canonicalize events)))
        (d.projection.relevant (Event.canonicalize events))).flatten = [] := by
  rw [d.projection.reduce_entries, List.forall_mem_append]
  constructor
  · rintro ⟨-, found⟩
    refine List.eq_nil_iff_forall_not_mem.mpr fun a member => ?_
    exact not_isScreened_of_reported (d.projection.reported_of_mem_findings member) (found a member)
  · intro nothing
    rw [nothing]
    refine ⟨fun a member => ?_, List.forall_mem_nil _⟩
    obtain ⟨e, -, screened⟩ := List.mem_filterMap.mp member
    exact (complaint?_isScreened screened).1

theorem screened_ids (d : Domain) (events : List Event) :
    ((events.filterMap d.projection.complaint?).map Anomaly.eventId).Sublist
      (events.map Event.id) := by
  induction events with
  | nil => exact .slnil
  | cons e events ih =>
    rw [List.filterMap_cons, List.map_cons]
    cases screened : d.projection.complaint? e with
    | none => exact ih.cons e.id
    | some a =>
      rw [List.map_cons, (complaint?_isScreened screened).2]
      exact ih.cons_cons e.id

/-- An event of the catalog is folded or found malformed, and never both. -/
theorem folded_or_malformed (d : Domain) (e : Event) :
    (if (d.projection.sift e).payload?.isSome then 1 else 0) +
        (if ((d.projection.complaint? e).map fun a => decide (a.kind = .malformedPayload)).getD false
          then 1 else 0) =
      if d.Catalogs e.eventType then 1 else 0 := by
  have spec := d.sift_spec e
  rw [Projection.complaint?]
  cases sifted : d.projection.sift e with
  | relevant p =>
    rw [sifted] at spec
    exact (if_pos spec).symm
  | malformed k r =>
    rw [sifted] at spec
    exact (if_pos spec).symm
  | unrecognized =>
    rw [sifted] at spec
    exact (if_neg fun listed => not_uncatalogued_of_catalogs listed spec.1).symm
  | foreign =>
    rw [sifted] at spec
    exact (if_neg spec.1).symm

theorem unrecognized_complaint (d : Domain) (e : Event) :
    (d.projection.complaint? e).filter (fun a => a.kind = .unrecognizedEventType) =
      if Uncatalogued e.eventType ∧ d.OwnsLongestStem e.eventType then
        some ⟨.unrecognizedEventType, e.id,
          "Unrecognized " ++ d.name ++ " event type '" ++ e.eventType ++ "'"⟩
      else none := by
  have spec := d.sift_spec e
  rw [Projection.complaint?, projection_domain]
  cases sifted : d.projection.sift e with
  | relevant p =>
    rw [sifted] at spec
    exact (if_neg fun stray => not_uncatalogued_of_catalogs spec stray.1).symm
  | malformed k r =>
    rw [sifted] at spec
    exact (if_neg fun stray => not_uncatalogued_of_catalogs spec stray.1).symm
  | unrecognized =>
    rw [sifted] at spec
    exact (if_pos spec).symm
  | foreign =>
    rw [sifted] at spec
    exact (if_neg spec.2).symm

theorem eventCount_add_malformed (d : Domain) (events : List Event) :
    (d.projection.reduce events).eventCount +
        ((d.projection.reduce events).ofKind .malformedPayload).length =
      (Event.canonicalize events).countP fun e => d.Catalogs e.eventType := by
  rw [d.eventCount_eq, d.ofKind_screened events (.inl rfl), ← List.countP_eq_length_filter,
    List.countP_filterMap]
  apply countP_add
  intro e
  simpa only [decide_eq_true_eq] using d.folded_or_malformed e

theorem unrecognized_eq (d : Domain) (events : List Event) :
    (d.projection.reduce events).ofKind .unrecognizedEventType =
      ((Event.canonicalize events).filter fun e =>
        Uncatalogued e.eventType ∧ d.OwnsLongestStem e.eventType).map fun e =>
          ⟨.unrecognizedEventType, e.id,
            "Unrecognized " ++ d.name ++ " event type '" ++ e.eventType ++ "'"⟩ := by
  rw [d.ofKind_screened events (.inr rfl), List.filter_filterMap, ← List.filterMap_eq_map,
    List.filterMap_filter]
  apply List.filterMap_congr
  intro e _
  rw [d.unrecognized_complaint e]
  simp only [decide_eq_true_eq, Function.comp_apply]

/-- The domain that an event counts for: that of its kind, or the one that claims its type. -/
def home? (e : Event) : Option Domain := (e.kind?.map Kind.domain).or (claiming e.eventType)

theorem home?_eq_some {d : Domain} {e : Event} :
    home? e = some d ↔
      d.Catalogs e.eventType ∨ Uncatalogued e.eventType ∧ d.OwnsLongestStem e.eventType := by
  rw [home?, Event.kind?, Option.or_eq_some_iff, ← catalogs_iff, Option.map_eq_none_iff,
    Kind.ofName?_eq_none, claiming_eq_some]
  rfl

theorem home?_eq_none {e : Event} :
    home? e = none ↔ Uncatalogued e.eventType ∧ Unclaimed e.eventType := by
  rw [home?, Event.kind?, Option.or_eq_none_iff, Option.map_eq_none_iff, Kind.ofName?_eq_none,
    claiming_eq_none]
  rfl

theorem counted_at_home (d : Domain) (events : List Event) :
    (d.projection.reduce events).eventCount +
          ((d.projection.reduce events).ofKind .malformedPayload).length +
        ((d.projection.reduce events).ofKind .unrecognizedEventType).length =
      (Event.canonicalize events).countP fun e => home? e = some d := by
  rw [d.eventCount_add_malformed, d.unrecognized_eq, List.length_map,
    ← List.countP_eq_length_filter]
  apply countP_add
  intro e
  simp only [decide_eq_true_eq, home?_eq_some]
  by_cases listed : d.Catalogs e.eventType
  · have recognized := not_uncatalogued_of_catalogs listed
    simp only [listed, recognized, false_and, or_false, ↓reduceIte, Nat.add_zero]
  · simp only [listed, false_or, ↓reduceIte, Nat.zero_add]

theorem sum_at_home (events : List Event) :
    (all.map fun d => events.countP fun e => home? e = some d).sum +
      (events.countP fun e => home? e = none) = events.length := by
  have once (home : Option Domain) :
      ((all.map some ++ [none]).map fun place => if home = place then 1 else 0).sum = 1 := by
    rcases home with _ | d
    · rfl
    · cases d <;> rfl
  have parts := sum_countP once home? events
  rwa [List.map_append, List.map_map, List.sum_append, List.map_singleton, List.sum_singleton] at parts

theorem length_canonicalize (events : List Event) :
    (Event.canonicalize events).length = (events.map Event.id).dedup.length := by
  have same : ((Event.canonicalize events).map Event.id).Perm (events.map Event.id).dedup := by
    rw [List.perm_ext_iff_of_nodup (Event.canonicalize_ids_nodup events) (List.nodup_dedup _)]
    intro id
    rw [Event.mem_canonicalize_ids, List.mem_dedup]
  rw [← same.length_eq, List.length_map]

/-- Over all domains no event is lost and none counts twice. What is screened out stands before what
    the fold finds, in canonical order. -/
theorem every_event_counted_once (events : List Event) :
    (∀ d : Domain,
      let s := d.projection.reduce events
      s.eventCount + (s.ofKind .malformedPayload).length =
          (Event.canonicalize events).countP (fun e => d.Catalogs e.eventType) ∧
        s.ofKind .unrecognizedEventType =
          ((Event.canonicalize events).filter fun e =>
            Uncatalogued e.eventType ∧ d.OwnsLongestStem e.eventType).map (fun e =>
              ⟨.unrecognizedEventType, e.id,
                "Unrecognized " ++ d.name ++ " event type '" ++ e.eventType ++ "'"⟩) ∧
        ∃ screened found : List Anomaly,
          s.anomalies = screened ++ found ∧
            (∀ a ∈ screened, a.kind.IsScreened) ∧
            (∀ a ∈ found, ¬ a.kind.IsScreened ∧
              d.projection.Reported (d.projection.relevant (Event.canonicalize events)) a) ∧
            (screened.map Anomaly.eventId).Sublist ((Event.canonicalize events).map Event.id)) ∧
      (all.map fun d =>
          let s := d.projection.reduce events
          s.eventCount + (s.ofKind .malformedPayload).length +
            (s.ofKind .unrecognizedEventType).length).sum +
        (Event.canonicalize events).countP
          (fun e => Uncatalogued e.eventType ∧ Unclaimed e.eventType) =
      (events.map Event.id).dedup.length := by
  refine ⟨fun d => ⟨d.eventCount_add_malformed events, d.unrecognized_eq events, ?_⟩, ?_⟩
  · obtain ⟨found, anomalies, origin⟩ := d.projection.reduce_anomalies events
    refine ⟨_, found, anomalies, fun a member => ?_, fun a member => ?_, d.screened_ids _⟩
    · obtain ⟨e, -, screened⟩ := List.mem_filterMap.mp member
      exact (complaint?_isScreened screened).1
    · have reported := origin a member
      exact ⟨not_isScreened_of_reported reported, reported⟩
  · have home := sum_at_home (Event.canonicalize events)
    simp only [home?_eq_none] at home
    simp only [counted_at_home]
    rw [home, length_canonicalize]

end Domain
end EventLedger
