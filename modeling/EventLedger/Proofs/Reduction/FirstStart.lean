import EventLedger.Proofs.Reduction.Isolation
import EventLedger.Proofs.Reduction.Opening

/-! What becomes of an event that starts something where others came before it. Main statement: it is taken
for a repeated start, and what it says is lost, also where nothing was started before. -/

namespace EventLedger

/-- An anomaly of the kind is recorded about the event. -/
def Snapshot.Records {σ : Type} (s : Snapshot σ) (k : AnomalyKind) (e : Event) : Prop :=
  ∃ a ∈ s.anomalies, a.kind = k ∧ a.eventId = e.id

def Finding.Among (k : AnomalyKind) (found : List Finding) : Prop := ∃ f ∈ found, f.kind = k

namespace Projection

variable {σ : Type} (p : Projection σ) {log : List Event} {before : List (Event × Payload)} {e : Event}
  {x : Payload}

/-- Of a log, an event with a payload is folded right after some events. -/
def Folds (log : List Event) (before : List (Event × Payload)) (e : Event) (x : Payload) : Prop :=
  before ++ [(e, x)] <+: p.relevant (Event.canonicalize log)

theorem own_before (folds : p.Folds log before e x) : ∀ z ∈ before, z.2.kind ∈ p.kinds := fun _ member =>
  (p.mem_relevant.mp (folds.subset (List.mem_append_left _ member))).2.2

theorem records_iff (folds : p.Folds log before e x) (k : AnomalyKind) :
    (p.reduce log).Records k e ↔
      Finding.Among k
        (p.step (p.after (p.start (p.relevant (Event.canonicalize log))) before) e x).2 := by
  obtain ⟨later, split⟩ := folds
  rw [List.append_assoc, List.singleton_append] at split
  have recorded := p.anomalies_about split.symm
  unfold Snapshot.Records
  constructor
  · rintro ⟨a, member, rfl, about⟩
    have here : a ∈ (p.reduce log).anomalies.filter fun a => a.eventId = e.id :=
      List.mem_filter.mpr ⟨member, decide_eq_true about⟩
    rw [recorded] at here
    obtain ⟨f, found, rfl⟩ := List.mem_map.mp here
    exact ⟨f, found, rfl⟩
  · rintro ⟨f, found, rfl⟩
    have here := List.mem_map_of_mem (f := Anomaly.about e) found
    rw [← recorded] at here
    exact ⟨.about e f, (List.mem_filter.mp here).1, rfl, rfl⟩

end Projection

theorem Lifecycle.create_again (s : State) (e : Event) (p : Payload.MissionCreated) :
    Finding.Among .duplicateStart (step s e (.missionCreated p)).2 ↔ (shownType? s).isSome := by
  unfold Finding.Among step create shownType?
  cases s.status <;> simp

theorem MissionAudit.request_again (s : State) (e : Event) (p : Payload.MissionAuditRequested) :
    Finding.Among .duplicateStart (step s e (.missionAuditRequested p)).2 ↔
      (shownTrigger? s).isSome ∧ s.status.isTerminal = false := by
  unfold Finding.Among step proceed request shownTrigger?
  cases s.status.isTerminal <;> cases s.requested <;> simp

theorem MissionNext.start_again (s : State) (e : Event) (p : Payload.MissionRunStarted) :
    Finding.Among .duplicateStart (step s e (.missionRunStarted p)).2 ↔
      (shownType? s).isSome ∧ s.status ≠ some .completed := by
  unfold Finding.Among shownType?
  rcases step_cases s e (.missionRunStarted p) with ⟨ended, refused⟩ | ⟨unended, made⟩
  · rw [refused]
    simp [ended]
  · rw [made]
    cases known : s.status <;> simp_all [named, premature, proceed, beginRun]

theorem Connector.provision_again (s : State) (e : Event) (p : Payload.ConnectorProvisioned) :
    Finding.Among .duplicateStart (step s e (.connectorProvisioned p)).2 ↔
      (shownProvider? p.connectorId s).isSome := by
  unfold Finding.Among step provision shownProvider? connection?
  dsimp only
  cases s.connectors.find? p.connectorId <;> simp

theorem DecisionPoint.open_again (s : State) (e : Event) (p : Payload.DecisionPointOpened) :
    Finding.Among .duplicateDecisionId (step s e (.decisionPointOpened p)).2 ↔
      (shownOptions? p.decisionId s).isSome := by
  unfold Finding.Among step openDecision shownOptions? decision? Index.contains
  cases known : s.decisions.find? p.decisionId <;> simp [known]

variable {log : List Event} {before : List (Event × Payload)} {e : Event}

theorem Lifecycle.created_again_iff {p : Payload.MissionCreated}
    (folds : projection.Folds log before e (.missionCreated p)) :
    (projection.reduce log).Records .duplicateStart e ↔ ∃ y ∈ before, y.2.kind ≠ .phaseEntered := by
  have found : (projection.reduce log).Records .duplicateStart e ↔
      Finding.Among .duplicateStart (step (projection.after {} before) e (.missionCreated p)).2 :=
    projection.records_iff folds _
  rw [found, create_again, after_shownType? (projection.own_before folds), Option.isSome_map,
    List.find?_isSome]
  simp only [decide_eq_true_eq]

theorem MissionAudit.requested_again_iff {p : Payload.MissionAuditRequested}
    (folds : projection.Folds log before e (.missionAuditRequested p)) :
    (projection.reduce log).Records .duplicateStart e ↔
      before ≠ [] ∧ ∀ y ∈ before, endsAudit y.2.kind = false := by
  have found : (projection.reduce log).Records .duplicateStart e ↔
      Finding.Among .duplicateStart (step (projection.after {} before) e (.missionAuditRequested p)).2 :=
    projection.records_iff folds _
  have ended : (projection.after {} before).status.isTerminal =
      before.any fun y => endsAudit y.2.kind :=
    projection.after_raised (fun s => s.status.isTerminal) (fun x => endsAudit x.kind) step_isTerminal {}
      before
  rw [found, request_again, after_shownTrigger? (projection.own_before folds), Option.isSome_map, ended]
  cases before <;> simp

theorem MissionNext.started_again_iff {p : Payload.MissionRunStarted}
    (folds : projection.Folds log before e (.missionRunStarted p)) :
    (projection.reduce log).Records .duplicateStart e ↔
      (∃ y ∈ before, y.2.kind ≠ .decisionInputAnswered) ∧
        ∀ y ∈ before, y.2.kind ≠ .missionRunCompleted := by
  have found : (projection.reduce log).Records .duplicateStart e ↔
      Finding.Among .duplicateStart (step (projection.after {} before) e (.missionRunStarted p)).2 :=
    projection.records_iff folds _
  have ended : decide ((projection.after {} before).status = some .completed) =
      before.any fun y => y.2.kind = .missionRunCompleted :=
    projection.after_raised (fun s => s.status = some .completed) (fun x => x.kind = .missionRunCompleted)
      step_completed {} before
  rw [found, start_again, after_shownType?, Option.isSome_map, List.find?_isSome, Ne,
    ← decide_eq_false_iff_not, ended]
  simp

theorem Connector.provisioned_again_iff {p : Payload.ConnectorProvisioned}
    (folds : projection.Folds log before e (.connectorProvisioned p)) :
    (projection.reduce log).Records .duplicateStart e ↔
      ∃ y ∈ before, entity? y.2 = some p.connectorId := by
  have found : (projection.reduce log).Records .duplicateStart e ↔
      Finding.Among .duplicateStart (step (projection.after {} before) e (.connectorProvisioned p)).2 :=
    projection.records_iff folds _
  rw [found, provision_again, after_shownProvider?, Option.isSome_map, Family.own, List.head?_filter,
    List.find?_isSome]
  simp only [decide_eq_true_eq]
  rfl

theorem DecisionPoint.opened_again_iff {p : Payload.DecisionPointOpened}
    (folds : projection.Folds log before e (.decisionPointOpened p)) :
    (projection.reduce log).Records .duplicateDecisionId e ↔
      ∃ y ∈ before, decisionId? y.2 = some p.decisionId := by
  have found : (projection.reduce log).Records .duplicateDecisionId e ↔
      Finding.Among .duplicateDecisionId (step (projection.after {} before) e (.decisionPointOpened p)).2 :=
    projection.records_iff folds _
  rw [found, open_again, after_shownOptions?, Option.isSome_map, Family.own, List.head?_filter,
    List.find?_isSome]
  simp only [decide_eq_true_eq]
  rfl

/-- When an event that starts something is recorded as a repeated start, and what is kept of such events. It
    takes no earlier start: whatever makes the mission, the audit, the run, the connector or the decision
    known will do, and only a phase before a creation, and an answer before the start of a run, do not. -/
theorem repeated_start_iff (log : List Event) :
    (let folded := Lifecycle.projection.relevant (Event.canonicalize log)
      let s := Lifecycle.projection.reduce log
      Lifecycle.shownType? s.state =
          (folded.find? fun y => y.2.kind ≠ .phaseEntered).map (fun y => Lifecycle.created? y.2) ∧
        ∀ before e p, Lifecycle.projection.Folds log before e (.missionCreated p) →
          (s.Records .duplicateStart e ↔ ∃ y ∈ before, y.2.kind ≠ .phaseEntered)) ∧
    (let folded := MissionAudit.projection.relevant (Event.canonicalize log)
      let s := MissionAudit.projection.reduce log
      MissionAudit.shownTrigger? s.state = folded.head?.map (fun y => MissionAudit.trigger? y.2) ∧
        ∀ before e p, MissionAudit.projection.Folds log before e (.missionAuditRequested p) →
          (s.Records .duplicateStart e ↔
            before ≠ [] ∧ ∀ y ∈ before, MissionAudit.endsAudit y.2.kind = false)) ∧
    (let folded := MissionNext.projection.relevant (Event.canonicalize log)
      let s := MissionNext.projection.reduce log
      MissionNext.shownType? s.state =
          (folded.find? fun y => y.2.kind ≠ .decisionInputAnswered).map
            (fun y => MissionNext.begun? y.2) ∧
        ∀ before e p, MissionNext.projection.Folds log before e (.missionRunStarted p) →
          (s.Records .duplicateStart e ↔ (∃ y ∈ before, y.2.kind ≠ .decisionInputAnswered) ∧
            ∀ y ∈ before, y.2.kind ≠ .missionRunCompleted)) ∧
    (let folded := Connector.projection.relevant (Event.canonicalize log)
      let s := Connector.projection.reduce log
      (∀ k, Connector.shownProvider? k s.state =
          (Connector.connectors.own k folded).head?.map fun y => Connector.provider? y.2) ∧
        ∀ before e p, Connector.projection.Folds log before e (.connectorProvisioned p) →
          (s.Records .duplicateStart e ↔ ∃ y ∈ before, Connector.entity? y.2 = some p.connectorId)) ∧
    (let folded := DecisionPoint.projection.relevant (Event.canonicalize log)
      let s := DecisionPoint.projection.reduce log
      (∀ k, DecisionPoint.shownOptions? k s.state =
          (DecisionPoint.decisions.own k folded).head?.map fun y => DecisionPoint.options y.2) ∧
        ∀ before e p, DecisionPoint.projection.Folds log before e (.decisionPointOpened p) →
          (s.Records .duplicateDecisionId e ↔
            ∃ y ∈ before, DecisionPoint.decisionId? y.2 = some p.decisionId)) := by
  refine ⟨⟨?_, fun before e p => Lifecycle.created_again_iff⟩,
    ⟨?_, fun before e p => MissionAudit.requested_again_iff⟩,
    ⟨?_, fun before e p => MissionNext.started_again_iff⟩,
    ⟨fun k => ?_, fun before e p => Connector.provisioned_again_iff⟩,
    ⟨fun k => ?_, fun before e p => DecisionPoint.opened_again_iff⟩⟩
  · rw [Projection.reduce_state]
    exact Lifecycle.after_shownType? (Lifecycle.relevant_own log)
  · rw [Projection.reduce_state]
    exact MissionAudit.after_shownTrigger? fun _ member => (Projection.mem_relevant _ |>.mp member).2.2
  · rw [Projection.reduce_state]
    exact MissionNext.after_shownType? _
  · rw [Projection.reduce_state]
    exact Connector.after_shownProvider? k _
  · rw [Projection.reduce_state]
    exact DecisionPoint.after_shownOptions? k _

/-- Five starts, each the only one of its kind in the log, and each recorded as a repeated one. -/
theorem repeated_start_iff_only_start :
    let event (id : String) (clock : Nat) (eventType : String) (members : List (String × Json)) :=
      Event.plain id clock eventType (.object members)
    let created := event "e2" 2 "MissionCreated" [("mission_type", .string "research")]
    let requested := event "e4" 4 "MissionAuditRequested" [("trigger_mode", .string "manual")]
    let begun := event "e6" 6 "MissionRunStarted" [("mission_type", .string "research")]
    let provisioned := event "e8" 8 "ConnectorProvisioned"
      [("connector_id", .string "gh"), ("provider", .string "github")]
    let opened := event "f2" 10 "DecisionPointOpened"
      [("decision_id", .string "d1"), ("options", .array [.string "a", .string "b"])]
    let log := [event "e1" 1 "MissionStarted" [], created, event "e3" 3 "MissionAuditStarted" [], requested,
      event "e5" 5 "NextStepIssued" [("step_id", .string "s1")], begun,
      event "e7" 7 "ConnectorDegraded" [("connector_id", .string "gh")], provisioned,
      event "f1" 9 "DecisionPointDiscussing" [("decision_id", .string "d1")], opened]
    (Lifecycle.projection.reduce log).Records .duplicateStart created ∧
      (MissionAudit.projection.reduce log).Records .duplicateStart requested ∧
      (MissionNext.projection.reduce log).Records .duplicateStart begun ∧
      (Connector.projection.reduce log).Records .duplicateStart provisioned ∧
      (DecisionPoint.projection.reduce log).Records .duplicateDecisionId opened := by
  intro event created requested begun provisioned opened log
  have sorted : Event.Ascending log := by decide
  have canonical : Event.canonicalize log = log := Event.canonicalize_of_ascending sorted (by decide)
  obtain ⟨⟨-, creation⟩, ⟨-, request⟩, ⟨-, start⟩, ⟨-, provisioning⟩, -, opening⟩ :=
    repeated_start_iff log
  have created' := (creation [(_, .missionStarted _)] created ⟨"research", none, none⟩
    ⟨[], by rw [canonical]; rfl⟩).mpr ⟨_, List.mem_singleton_self _, nofun⟩
  have requested' := (request [(_, .missionAuditStarted _)] requested ⟨some "manual", none⟩
    ⟨[], by rw [canonical]; rfl⟩).mpr ⟨nofun, List.forall_mem_singleton.mpr rfl⟩
  have begun' := (start [(_, .nextStepIssued _)] begun ⟨"research", none⟩
    ⟨[], by rw [canonical]; rfl⟩).mpr
      ⟨⟨_, List.mem_singleton_self _, nofun⟩, List.forall_mem_singleton.mpr nofun⟩
  have provisioned' := (provisioning [(_, .connectorDegraded _)] provisioned ⟨"gh", "github", []⟩
    ⟨[], by rw [canonical]; rfl⟩).mpr ⟨_, List.mem_singleton_self _, rfl⟩
  have opened' := (opening [(_, .decisionPointDiscussing _)] opened ⟨"d1", "", ["a", "b"], none⟩
    ⟨[], by rw [canonical]; rfl⟩).mpr ⟨_, List.mem_singleton_self _, rfl⟩
  exact ⟨created', requested', begun', provisioned', opened'⟩

/-- An audit that was started too early is requested once, and that is recorded as a second time. -/
theorem only_request_recorded_as_second :
    let log := [Event.plain "e1" 1 "MissionAuditStarted" (.object []),
      Event.plain "e2" 2 "MissionAuditRequested" (.object [("trigger_mode", .string "manual")])]
    let s := MissionAudit.projection.reduce log
    s.anomalies = [⟨.eventBeforeRequested, ⟨"e1"⟩,
        "MissionAuditStarted without a prior MissionAuditRequested"⟩,
      ⟨.duplicateStart, ⟨"e2"⟩, "Audit already requested"⟩] ∧
      s.state.triggerMode = none ∧
      ((MissionAudit.projection.relevant (Event.canonicalize log)).map fun y => (y.1.id, y.2.kind)) =
        [(⟨"e1"⟩, .missionAuditStarted), (⟨"e2"⟩, .missionAuditRequested)] := by
  intro log s
  have sorted : Event.Ascending log := by decide
  have canonical : Event.canonicalize log = log := Event.canonicalize_of_ascending sorted (by decide)
  dsimp only [s]
  rw [Projection.reduce_entries, Projection.reduce_state, canonical]
  decide +kernel

end EventLedger
