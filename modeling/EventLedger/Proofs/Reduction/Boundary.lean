import EventLedger.Proofs.Reduction.Accounting
import EventLedger.Proofs.Reduction.Sifting
import EventLedger.Validation

/-! The boundary and the folds agree on which events are sound. Main statement: an event passes the
boundary exactly if nothing is reported of it, a domain folds what the boundary would let through, and
what passes is never found malformed or unrecognized. -/

namespace EventLedger
namespace Validation

theorem payload_eq_nil {e : Event} :
    payload e.eventType e.payload = [] ↔ ∃ x, e.decoded? = some x := by
  have kind : e.kind? = Kind.ofName? e.eventType := rfl
  rw [payload, Event.decoded?, kind]
  cases Kind.ofName? e.eventType with
  | none => simp
  | some k =>
    dsimp only [Option.bind_some]
    cases Payload.decode k e.payload <;> simp [Except.toOption]

theorem event_of_silent {mode : Strictness} {e : Event}
    (silent : envelope mode e ++ payload e.eventType e.payload = []) :
    ∃ x, event mode e = .ok x ∧ e.decoded? = some x := by
  obtain ⟨x, read⟩ := payload_eq_nil.mp (List.append_eq_nil_iff.mp silent).2
  obtain ⟨kind, decoded⟩ := Event.decoded?_eq_some.mp read
  refine ⟨x, ?_, read⟩
  rw [event, silent]
  dsimp only
  rw [kind]
  dsimp only
  rw [decoded]
  rfl

theorem event_of_reported {mode : Strictness} {e : Event}
    (reported : envelope mode e ++ payload e.eventType e.payload ≠ []) :
    event mode e = .error ((LedgerError.payloadValidationFailed e.eventType
      (violationsJson (envelope mode e ++ payload e.eventType e.payload))).withContext
        "event_id" (.string e.id.text)) := by
  rw [event]
  split
  · rename_i silent
    exact absurd silent reported
  · rfl

theorem decoded?_of_event {mode : Strictness} {e : Event} {x : Payload} (passed : event mode e = .ok x) :
    e.decoded? = some x := by
  by_cases silent : envelope mode e ++ payload e.eventType e.payload = []
  · obtain ⟨y, accepted, read⟩ := event_of_silent silent
    rw [passed] at accepted
    cases accepted
    exact read
  · rw [event_of_reported silent] at passed
    cases passed

end Validation

namespace Domain

/-- The domain of its kind folds an event of the catalog, or else finds it malformed. -/
theorem complaint?_catalogued {e : Event} {k : Kind} (kind : e.kind? = some k) :
    (∃ x, Payload.decode k e.payload = .ok x ∧ k.domain.projection.complaint? e = none) ∨
      ∃ r a, Payload.decode k e.payload = .error r ∧
        k.domain.projection.complaint? e = some a ∧ a.kind = .malformedPayload := by
  have home : k ∈ k.domain.projection.kinds := by
    rw [projection_kinds]
    exact Kind.mem_ofDomain.mpr rfl
  cases read : Payload.decode k e.payload with
  | ok x =>
    have decoded : e.decoded? = some x := by
      rw [Event.decoded?, kind, Option.bind_some, read]
      rfl
    exact .inl ⟨x, rfl, k.domain.projection.complaint?_of_decoded decoded⟩
  | error r =>
    refine .inr ⟨r, .about e ⟨.malformedPayload, k.name ++ " payload rejected: " ++ r.message⟩, rfl,
      ?_, rfl⟩
    rw [Projection.complaint?, Projection.sift, Sifted.ofEvent, kind]
    dsimp only
    rw [if_pos (List.contains_iff_mem.mpr home), read]
    rfl

/-- What holds of one event of the canonical sequence alone holds once in it. -/
theorem countP_canonicalize {events : List Event} {e : Event} {q : Event → Bool}
    (member : e ∈ Event.canonicalize events) (only : ∀ d, q d = true → d.id = e.id) :
    (Event.canonicalize events).countP q = if q e then 1 else 0 := by
  have distinct := Event.canonicalize_ids_nodup events
  have same {d : Event} (present : d ∈ Event.canonicalize events) (level : d.id = e.id) : d = e :=
    List.inj_on_of_nodup_map distinct present member level
  by_cases holds : q e = true
  · have once := List.count_eq_one_of_mem distinct (List.mem_map_of_mem member)
    rw [List.count, List.countP_map] at once
    rw [if_pos holds, ← once]
    refine List.countP_congr fun d present => ?_
    rw [Function.comp_apply, beq_iff_eq]
    exact ⟨only d, fun level => same present level ▸ holds⟩
  · rw [if_neg holds, List.countP_eq_zero]
    exact fun d present found => holds (same present (only d found) ▸ found)

theorem malformed_once {events : List Event} {e : Event} {k : Kind}
    (member : e ∈ Event.canonicalize events) (kind : e.kind? = some k) :
    ((k.domain.projection.reduce events).ofKind .malformedPayload).countP (fun a => a.eventId = e.id) =
      if Validation.payload e.eventType e.payload = [] then 0 else 1 := by
  have read : Validation.payload e.eventType e.payload = [] ↔
      ∃ x, Payload.decode k e.payload = .ok x := by
    rw [Validation.payload_eq_nil, Event.decoded?, kind, Option.bind_some]
    simp only [toOption_eq_some]
  rw [k.domain.ofKind_screened events (.inl rfl), List.countP_filter, List.countP_filterMap,
    countP_canonicalize member]
  · rcases complaint?_catalogued kind with ⟨x, decoded, silent⟩ | ⟨r, a, refused, found, malformed⟩
    · rw [if_pos (read.mpr ⟨x, decoded⟩), silent]
      rfl
    · have unread : ¬ Validation.payload e.eventType e.payload = [] := fun silent => by
        obtain ⟨x, decoded⟩ := read.mp silent
        rw [refused] at decoded
        cases decoded
      have about := (complaint?_isScreened found).2
      rw [if_neg unread, found]
      simp [about, malformed]
  · intro d counted
    cases found : k.domain.projection.complaint? d with
    | none => rw [found] at counted; cases counted
    | some a =>
      rw [found] at counted
      have about := (complaint?_isScreened found).2
      simp only [Option.map_some, Option.getD_some, Bool.and_eq_true, decide_eq_true_eq] at counted
      exact about.symm.trans counted.1

/-- What is screened out of a log is an event that passes the boundary in no mode. -/
theorem screened_fails {d : Domain} {events : List Event} {a : Anomaly}
    (member : a ∈ (d.projection.reduce events).anomalies) (screened : a.kind.IsScreened) :
    ∃ e ∈ Event.canonicalize events, a.eventId = e.id ∧
      ∀ mode x, Validation.event mode e ≠ .ok x := by
  obtain ⟨found, anomalies, origin⟩ := d.projection.reduce_anomalies events
  rw [anomalies] at member
  rcases List.mem_append.mp member with early | late
  · obtain ⟨e, present, complaint⟩ := List.mem_filterMap.mp early
    refine ⟨e, present, (complaint?_isScreened complaint).2, fun mode x passed => ?_⟩
    rw [d.projection.complaint?_of_decoded (Validation.decoded?_of_event passed)] at complaint
    cases complaint
  · exact absurd screened (not_isScreened_of_reported (origin a late))

end Domain

/-- An event passes the boundary, with its payload, if and only if its report is empty, and every
    refusal is a validation failure. Of a log, an event of the catalog is folded at home if and only if
    its payload is valid, and is otherwise found malformed there once. -/
theorem boundary_agrees :
    (∀ mode e,
      ((∃ x, Validation.event mode e = .ok x) ↔
        Validation.envelope mode e ++ Validation.payload e.eventType e.payload = []) ∧
      (∀ x, Validation.event mode e = .ok x →
        e.kind? = some x.kind ∧ Payload.decode x.kind e.payload = .ok x) ∧
      ∀ failure, Validation.event mode e = .error failure →
        failure.code = .payloadValidationFailed) ∧
    ∀ events,
      (∀ e ∈ Event.canonicalize events, ∀ k, e.kind? = some k →
        ((∃ x, (e, x) ∈ k.domain.projection.relevant (Event.canonicalize events)) ↔
          Validation.payload e.eventType e.payload = []) ∧
        ((k.domain.projection.reduce events).ofKind .malformedPayload).countP
            (fun a => a.eventId = e.id) =
          if Validation.payload e.eventType e.payload = [] then 0 else 1) ∧
      (∀ (d : Domain), ∀ a ∈ (d.projection.reduce events).anomalies, a.kind.IsScreened →
        ∃ e ∈ Event.canonicalize events, a.eventId = e.id ∧
          ∀ mode x, Validation.event mode e ≠ .ok x) ∧
      ∀ e ∈ Event.canonicalize events, ∀ mode x, Validation.event mode e = .ok x →
        ∀ (d : Domain), ∀ a ∈ (d.projection.reduce events).anomalies, a.eventId = e.id →
          ¬ a.kind.IsScreened := by
  refine ⟨fun mode e => ⟨⟨?_, ?_⟩, ?_, ?_⟩, fun events => ⟨fun e member k kind => ⟨⟨?_, ?_⟩, ?_⟩,
    fun d a member screened => Domain.screened_fails member screened, ?_⟩⟩
  · rintro ⟨x, passed⟩
    by_contra reported
    rw [Validation.event_of_reported reported] at passed
    cases passed
  · intro silent
    obtain ⟨x, passed, -⟩ := Validation.event_of_silent silent
    exact ⟨x, passed⟩
  · exact fun x passed => Event.decoded?_eq_some.mp (Validation.decoded?_of_event passed)
  · intro failure failed
    by_cases silent : Validation.envelope mode e ++ Validation.payload e.eventType e.payload = []
    · obtain ⟨x, passed, -⟩ := Validation.event_of_silent silent
      rw [failed] at passed
      cases passed
    · rw [Validation.event_of_reported silent] at failed
      cases failed
      rfl
  · rintro ⟨x, folded⟩
    exact Validation.payload_eq_nil.mpr ⟨x, (Projection.mem_relevant _ |>.mp folded).2.1⟩
  · intro valid
    obtain ⟨x, read⟩ := Validation.payload_eq_nil.mp valid
    obtain ⟨kind', -⟩ := Event.decoded?_eq_some.mp read
    rw [kind] at kind'
    refine ⟨x, (Projection.mem_relevant _).mpr ⟨member, read, ?_⟩⟩
    rw [Domain.projection_kinds, Kind.mem_ofDomain, ← Option.some.inj kind']
  · exact Domain.malformed_once member kind
  · intro e member mode x passed d a present about screened
    obtain ⟨e', member', about', fails⟩ := Domain.screened_fails present screened
    have same : e = e' := List.inj_on_of_nodup_map (Event.canonicalize_ids_nodup events) member
      member' (about.symm.trans about')
    exact fails mode x (same ▸ passed)

/-- A log with one event that passes in the strict mode and one that lacks a field. -/
theorem boundary_agrees_missions :
    let started := Event.plain "01ARZ3NDEKTSV4RRFFQ69G5FAV" 1 "MissionStarted" (.object [])
    let broken := Event.plain "01ARZ3NDEKTSV4RRFFQ69G5FAW" 2 "MissionCreated" (.object [])
    let log := [broken, started]
    let snapshot := Domain.lifecycle.projection.reduce log
    Validation.event .strict started = .ok (.missionStarted ⟨none⟩) ∧
      (∃ x, (started, x) ∈ Domain.lifecycle.projection.relevant (Event.canonicalize log)) ∧
      (∀ a ∈ snapshot.anomalies, a.eventId = started.id → ¬ a.kind.IsScreened) ∧
      Validation.payload broken.eventType broken.payload ≠ [] ∧
      (snapshot.ofKind .malformedPayload).countP (fun a => a.eventId = broken.id) = 1 := by
  intro started broken log snapshot
  have distinct : (log.map Event.id).Nodup := by decide
  have known {e : Event} (member : e ∈ log) : e ∈ Event.canonicalize log :=
    (Event.mem_canonicalize_of_distinct distinct).mpr member
  have startedIn : started ∈ Event.canonicalize log :=
    known (List.mem_cons_of_mem _ List.mem_cons_self)
  have brokenIn : broken ∈ Event.canonicalize log := known List.mem_cons_self
  have read : started.decoded? = some (.missionStarted ⟨none⟩) := by cbv
  have unread : broken.decoded? = none := by cbv
  have valid : Validation.payload started.eventType started.payload = [] :=
    Validation.payload_eq_nil.mpr ⟨_, read⟩
  have violated : Validation.payload broken.eventType broken.payload ≠ [] := fun silent => by
    obtain ⟨x, found⟩ := Validation.payload_eq_nil.mp silent
    rw [unread] at found
    cases found
  have enveloped : Validation.envelope .strict started = [] := by decide
  obtain ⟨boundary, folds⟩ := boundary_agrees
  obtain ⟨sorted, -, unreported⟩ := folds log
  obtain ⟨x, passed⟩ := (boundary .strict started).1.mpr (by rw [enveloped, valid]; rfl)
  obtain rfl : x = .missionStarted ⟨none⟩ := by
    rw [Validation.decoded?_of_event passed] at read
    exact Option.some.inj read
  have once := (sorted broken brokenIn .missionCreated rfl).2
  rw [if_neg violated] at once
  exact ⟨passed, (sorted started startedIn .missionStarted rfl).1.mpr valid,
    unreported started startedIn .strict _ passed .lifecycle, violated, once⟩

end EventLedger
