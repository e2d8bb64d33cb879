import EventLedger.Proofs.Order.Canonical
import EventLedger.Proofs.Reduction.Entities
import EventLedger.Proofs.Reduction.Sifting

/-! Events about other entities leave no trace in the record of an entity, nor in what is found about
it. Main statement: reducing a log and reducing the events of it that name the entity agree. -/

namespace EventLedger

namespace Projection

variable {σ : Type} (p : Projection σ) {events : List Event}

theorem nodup_relevant (distinct : (events.map Event.id).Nodup) :
    ((p.relevant events).map (·.1.id)).Nodup := by
  have ids := distinct.sublist ((p.relevant_events events).map Event.id)
  rw [List.map_map] at ids
  exact ids

/-- No event is recorded twice, so what is recorded about one of them was found by the step that took
    it. -/
theorem anomalies_about {before later : List (Event × Payload)} {e : Event} {x : Payload}
    (split : p.relevant (Event.canonicalize events) = before ++ (e, x) :: later) :
    ((p.reduce events).anomalies.filter fun a => a.eventId = e.id) =
      (p.step (p.after (p.start (p.relevant (Event.canonicalize events))) before) e x).2.map
        (.about e) := by
  have distinct := p.nodup_relevant (Event.canonicalize_ids_nodup events)
  rw [split, List.map_append, List.map_cons, List.nodup_append] at distinct
  obtain ⟨-, after, apart⟩ := distinct
  have unscreened : ((Event.canonicalize events).filterMap p.complaint?).filter
      (fun a => a.eventId = e.id) = [] := by
    refine List.filter_eq_nil_iff.mpr fun a member same => ?_
    obtain ⟨d, present, screened⟩ := List.mem_filterMap.mp member
    obtain ⟨listed, read, -⟩ := p.mem_relevant.mp
      (split ▸ List.mem_append_right before List.mem_cons_self : (e, x) ∈ p.relevant _)
    obtain ⟨f, -, rfl⟩ := Option.map_eq_some_iff.mp screened
    have here : d = e := List.inj_on_of_nodup_map (Event.canonicalize_ids_nodup events) present listed
      (of_decide_eq_true same)
    rw [here, p.complaint?_of_decoded read] at screened
    cases screened
  have elsewhere {s : σ} {others : List (Event × Payload)} (other : ∀ y ∈ others, y.1.id ≠ e.id) :
      (p.findings s others).flatten.filter (fun a => a.eventId = e.id) = [] := by
    refine List.filter_eq_nil_iff.mpr fun a member same => ?_
    obtain ⟨y, present, -, f, -, rfl⟩ := p.reported_of_mem_findings member
    exact other y present (of_decide_eq_true same)
  rw [p.reduce_entries, List.filter_append, unscreened, List.nil_append]
  conv_lhs => rw [split, findings_append, findings_cons]
  rw [List.flatten_append, List.flatten_cons, List.filter_append, List.filter_append,
    elsewhere fun y member => apart _ (List.mem_map_of_mem member) _ List.mem_cons_self,
    elsewhere fun y member same => (List.nodup_cons.mp after).1 (same ▸ List.mem_map_of_mem member),
    List.nil_append, List.append_nil, split]
  refine List.filter_eq_self.mpr fun a member => ?_
  obtain ⟨f, -, rfl⟩ := List.mem_map.mp member
  exact decide_eq_true rfl

end Projection

namespace Family

variable {σ ρ : Type} {p : Projection σ} (F : Family p ρ)

/-- The events whose payload can be read and names the entity. -/
def naming (k : String) (events : List Event) : List Event :=
  events.filter fun e => e.decoded?.bind F.names = some k

variable {F} {k : String} {events : List Event}

theorem mem_naming {e : Event} :
    e ∈ F.naming k events ↔ e ∈ events ∧ ∃ x, e.decoded? = some x ∧ F.names x = some k := by
  rw [naming, List.mem_filter, decide_eq_true_eq, Option.bind_eq_some_iff]

theorem relevant_naming : p.relevant (F.naming k events) = F.own k (p.relevant events) := by
  rw [own, Projection.relevant, Projection.relevant, naming, List.filterMap_filter,
    List.filter_filterMap]
  refine List.filterMap_congr fun e _ => ?_
  have folded : (Sifted.ofEvent p.domain p.kinds e).payload? =
      e.decoded?.filter fun x => p.kinds.contains x.kind := p.payload?_sift e
  rw [folded]
  cases read : e.decoded? with
  | none => rfl
  | some x =>
    by_cases named : F.names x = some k
    · have folds := F.names_kind named
      simp [Option.filter_some, named, folds]
    · by_cases folds : x.kind ∈ p.kinds <;> simp [Option.filter_some, named, folds]

/-- The record of an entity, and what is found about it, are those of the events that name it alone. -/
def Isolated (F : Family p ρ) (events : List Event) (k : String) : Prop :=
  F.record? (p.reduce events).state k = F.record? (p.reduce (F.naming k events)).state k ∧
    ((p.reduce events).anomalies.filter fun a => a.eventId ∈ (F.naming k events).map Event.id) =
      (p.reduce (F.naming k events)).anomalies

theorem complaint?_naming {e : Event} (member : e ∈ F.naming k events) : p.complaint? e = none := by
  obtain ⟨-, x, read, -⟩ := mem_naming.mp member
  exact p.complaint?_of_decoded read

theorem mem_naming_of_id (distinct : (events.map Event.id).Nodup) {e : Event} (member : e ∈ events)
    (present : e.id ∈ (F.naming k events).map Event.id) : e ∈ F.naming k events := by
  obtain ⟨d, here, same⟩ := List.mem_map.mp present
  rwa [← List.inj_on_of_nodup_map distinct (mem_naming.mp here).1 member same]

theorem names_iff_naming (distinct : (events.map Event.id).Nodup) {x : Event × Payload}
    (member : x ∈ p.relevant (Event.canonicalize events)) :
    F.names x.2 = some k ↔ x.1.id ∈ (F.naming k events).map Event.id := by
  obtain ⟨present, read, -⟩ := p.mem_relevant.mp member
  have given := Event.mem_of_mem_canonicalize present
  constructor
  · exact fun named => List.mem_map_of_mem (mem_naming.mpr ⟨given, x.2, read, named⟩)
  · intro inNaming
    obtain ⟨-, y, read', named⟩ := mem_naming.mp (mem_naming_of_id distinct given inNaming)
    rwa [← Option.some.inj (read.symm.trans read')] at named

/-- What is screened out of a log is about none of the events that name the entity. -/
theorem complaints_elsewhere (distinct : (events.map Event.id).Nodup) :
    (((Event.canonicalize events).filterMap p.complaint?).filter fun a =>
      a.eventId ∈ (F.naming k events).map Event.id) = [] := by
  refine List.filter_eq_nil_iff.mpr fun a member inNaming => ?_
  obtain ⟨e, present, screened⟩ := List.mem_filterMap.mp member
  have about : a.eventId = e.id := by
    obtain ⟨f, -, rfl⟩ := Option.map_eq_some_iff.mp screened
    rfl
  have named := mem_naming_of_id (F := F) (k := k) distinct
    (Event.mem_of_mem_canonicalize present) (about ▸ of_decide_eq_true inNaming)
  rw [complaint?_naming named] at screened
  cases screened

theorem relevant_canonicalize_naming (distinct : (events.map Event.id).Nodup) :
    p.relevant (Event.canonicalize (F.naming k events)) =
      F.own k (p.relevant (Event.canonicalize events)) := by
  have canonical : Event.canonicalize (F.naming k events) =
      F.naming k (Event.canonicalize events) := Event.canonicalize_filter distinct _
  rw [canonical, relevant_naming]

/-- An entity is isolated where the rest of the log has no say in which of its events are dismissed. -/
theorem isolated_of_agree (distinct : (events.map Event.id).Nodup)
    (agree : ∀ folded : List (Event × Payload), (folded.map (·.1.id)).Nodup →
      ∀ x ∈ folded, F.names x.2 = some k →
        F.dismissed (p.start folded) x.1 = F.dismissed (p.start (F.own k folded)) x.1) :
    F.Isolated events k := by
  have folded := relevant_canonicalize_naming (F := F) (k := k) distinct
  have quiet : (Event.canonicalize (F.naming k events)).filterMap p.complaint? = [] :=
    List.filterMap_eq_nil_iff.mpr fun e member =>
      complaint?_naming (Event.mem_of_mem_canonicalize member)
  have apart := agree _ (p.nodup_relevant (Event.canonicalize_ids_nodup events))
  obtain ⟨record, found⟩ := F.after_own (fun _ member => names_iff_naming distinct member) apart
    ((F.record?_start _ k).trans (F.record?_start _ k).symm)
  constructor
  · rw [p.reduce_state, p.reduce_state, folded]
    exact record
  · rw [p.reduce_entries, p.reduce_entries, List.filter_append, complaints_elsewhere distinct,
      quiet, folded]
    exact found

end Family

namespace Status

theorem mem_changes {events : List (Event × Payload)} {e : Event} {c : Payload.WpStatusChanged} :
    (e, c) ∈ changes events ↔ (e, .wpStatusChanged c) ∈ events := by
  rw [changes, List.mem_filterMap]
  constructor
  · rintro ⟨⟨d, x⟩, member, change⟩
    cases x with
    | wpStatusChanged c' => cases change; exact member
    | _ => cases change
  · exact fun member => ⟨_, member, rfl⟩

/-- What supersedes a completion: a rollback of the same work package that is concurrent with it. -/
theorem mem_superseded {cs : List (Event × Payload.WpStatusChanged)} {id : EventId} :
    id ∈ superseded cs ↔ ∃ f ∈ cs, f.1.id = id ∧ isCompletion f.2 ∧
      ∃ r ∈ cs, isRollback r.2 ∧ r.2.wpId = f.2.wpId ∧ f.1.isConcurrent r.1 := by
  simp only [superseded, List.mem_map, List.mem_filter, Bool.and_eq_true, List.any_eq_true,
    beq_iff_eq, and_assoc]
  constructor
  · rintro ⟨f, member, completion, rolledBack, rfl⟩
    exact ⟨f, member, rfl, completion, rolledBack⟩
  · rintro ⟨f, member, rfl, completion, rolledBack⟩
    exact ⟨f, member, completion, rolledBack, rfl⟩

theorem mem_own {events : List (Event × Payload)} {k : String} {e : Event}
    {c : Payload.WpStatusChanged} :
    (e, .wpStatusChanged c) ∈ workPackages.own k events ↔
      (e, .wpStatusChanged c) ∈ events ∧ c.wpId = k := by
  rw [Family.own, List.mem_filter, decide_eq_true_eq]
  exact and_congr_right fun _ => Option.some_inj

/-- Whether a change of a work package is superseded is seen from the changes of that package. -/
theorem superseded_own {folded : List (Event × Payload)} (distinct : (folded.map (·.1.id)).Nodup)
    {k : String} {x : Event × Payload} (member : x ∈ folded) (named : wpId? x.2 = some k) :
    x.1.id ∈ superseded (changes folded) ↔
      x.1.id ∈ superseded (changes (workPackages.own k folded)) := by
  rw [mem_superseded, mem_superseded]
  constructor
  · rintro ⟨⟨f, c⟩, inFolded, same, completion, ⟨r, c'⟩, other, rollback, wp, concurrent⟩
    have present := mem_changes.mp inFolded
    have here : (f, Payload.wpStatusChanged c) = x :=
      List.inj_on_of_nodup_map distinct present member same
    have mine : c.wpId = k := by
      rw [← here] at named
      exact Option.some.inj named
    exact ⟨(f, c), mem_changes.mpr (mem_own.mpr ⟨present, mine⟩), same, completion, (r, c'),
      mem_changes.mpr (mem_own.mpr ⟨mem_changes.mp other, wp.trans mine⟩), rollback, wp, concurrent⟩
  · rintro ⟨⟨f, c⟩, inOwn, same, completion, ⟨r, c'⟩, other, rollback, wp, concurrent⟩
    exact ⟨(f, c), mem_changes.mpr (mem_own.mp (mem_changes.mp inOwn)).1, same, completion, (r, c'),
      mem_changes.mpr (mem_own.mp (mem_changes.mp other)).1, rollback, wp, concurrent⟩

end Status

/-- A work package, a decision, a connector and a delivery are what their own events make of them, and
    have the anomalies that their own events give rise to, whatever else is in the log. -/
theorem entities_isolated (events : List Event) (distinct : (events.map Event.id).Nodup)
    (k : String) :
    Status.workPackages.Isolated events k ∧ DecisionPoint.decisions.Isolated events k ∧
      Connector.connectors.Isolated events k ∧ Sync.deliveries.Isolated events k := by
  refine ⟨Family.isolated_of_agree distinct fun folded apart x member named => ?_,
    Family.isolated_of_agree distinct fun _ _ _ _ _ => rfl,
    Family.isolated_of_agree distinct fun _ _ _ _ _ => rfl,
    Family.isolated_of_agree distinct fun _ _ _ _ _ => rfl⟩
  have agreed := Status.superseded_own apart member named
  rw [Bool.eq_iff_iff]
  exact List.contains_iff_mem.trans (agreed.trans List.contains_iff_mem.symm)

/-- A rollback of one work package, concurrent with the completion of another, leaves it done. -/
theorem entities_isolated_packages :
    let change (id wpId target : String) (more : List (String × Json)) : Event :=
      Event.plain id 5 "WPStatusChanged" (.object ([("actor", .string "a"),
        ("feature_slug", .string "slug"), ("from_lane", .string "for_review")] ++ more ++
        [("to_lane", .string target), ("wp_id", .string wpId)]))
    let log := [change "e1" "WP01" "done" [],
      change "e2" "WP02" "in_progress" [("review_ref", .string "r")],
      Event.plain "e3" 6 "WPStatusChanged" (.object [("wp_id", .string "WP01")])]
    (log.map Event.id).Nodup ∧
      (Status.workPackages.naming "WP01" log).map Event.id = [⟨"e1"⟩] ∧
      Status.workPackages.Isolated log "WP01" := by
  intro change log
  have distinct : (log.map Event.id).Nodup := by decide
  exact ⟨distinct, by decide +kernel, (entities_isolated log distinct "WP01").1⟩

end EventLedger
