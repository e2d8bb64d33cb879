import EventLedger.Proofs.Reduction.Entities
import Mathlib.Data.List.Forall2

/-! States that no event leaves. Main statement: what has ended stays in every field as it was, and
each event that still comes for it is reported. -/

namespace EventLedger

/-- From the state on, allowed events change nothing of what is in view, and each of them that
    concerns it adds an anomaly of its own. -/
def Projection.Absorbs {σ α : Type} (p : Projection σ) (view : σ → α)
    (Allowed Concerns : Payload → Prop) (s : σ) : Prop :=
  ∀ (log : AnomalyLog) (further : List (Event × Payload)), (∀ x ∈ further, Allowed x.2) →
    view (p.fold s log further).1 = view s ∧
      ∃ found : List (List Anomaly),
        (p.fold s log further).2.entries = log.entries ++ found.flatten ∧
          List.Forall₂ (fun x now => (∀ a ∈ now, a.eventId = x.1.id) ∧ (Concerns x.2 → now ≠ []))
            further found

namespace Projection

variable {σ α : Type} {p : Projection σ} {view : σ → α} {Allowed Concerns : Payload → Prop} {s : σ}

/-- Steps that leave the view and report what concerns it add up to a fold that does. -/
theorem absorbs_of_step
    (stays : ∀ t e x, view t = view s → Allowed x →
      view (p.step t e x).1 = view s ∧ (Concerns x → (p.step t e x).2 ≠ [])) :
    p.Absorbs view Allowed Concerns s := by
  intro log further allowed
  rw [fold_state, fold_entries]
  -- What lies outside the view may change, so the induction is over all states with this view.
  suffices along : ∀ t, view t = view s →
      view (p.after t further) = view s ∧
        List.Forall₂ (fun x now => (∀ a ∈ now, a.eventId = x.1.id) ∧ (Concerns x.2 → now ≠ []))
          further (p.findings t further) from
    ⟨(along s rfl).1, p.findings s further, rfl, (along s rfl).2⟩
  induction further with
  | nil => exact fun t same => ⟨same, .nil⟩
  | cons x rest ih =>
    intro t same
    obtain ⟨stepped, reported⟩ := stays t x.1 x.2 same (allowed x List.mem_cons_self)
    obtain ⟨after, found⟩ :=
      ih (fun y member => allowed y (List.mem_cons_of_mem x member)) _ stepped
    refine ⟨after, .cons ⟨fun a member => ?_, fun concerns => ?_⟩ found⟩
    · obtain ⟨f, -, rfl⟩ := List.mem_map.mp member
      rfl
    · exact fun nothing => reported concerns (List.map_eq_nil_iff.mp nothing)

end Projection

namespace Lifecycle

theorem create_missionId (s : State) (p : Payload.MissionCreated) :
    (create s p).1.missionId = s.missionId := by
  unfold create
  split <;> rfl

theorem proceed_missionId (s : State) (e : Event) (x : Payload) :
    (proceed s e x).1.missionId = s.missionId := by
  unfold proceed
  split
  · split <;> rfl
  all_goals rfl

theorem step_missionId (s : State) (e : Event) (x : Payload) :
    (step s e x).1.missionId = s.missionId.or (some e.aggregateId) := by
  unfold step
  dsimp only
  split
  · exact create_missionId _ _
  · split
    · rfl
    · exact proceed_missionId _ e x

theorem identified {s : State} (named : s.missionId.isSome) (e : Event) :
    { s with missionId := s.missionId.or (some e.aggregateId) } = s := by
  rw [Option.or_of_isSome named]

/-- A mission has its id from its first event on. -/
theorem missionId_of_reached {s : State} (reached : projection.Reached s) :
    s.status.isSome → s.missionId.isSome := by
  refine reached.keeps (fun t => t.status.isSome → t.missionId.isSome) (fun _ => nofun)
    fun t e x _ _ => ?_
  have named : (projection.step t e x).1.missionId = t.missionId.or (some e.aggregateId) :=
    step_missionId t e x
  rw [named]
  cases t.missionId <;> rfl

theorem step_ended {s : State} (named : s.missionId.isSome) (ended : isTerminal s) (e : Event)
    (x : Payload) : (step s e x).1 = s ∧ (step s e x).2 ≠ [] := by
  obtain ⟨status, present, closed⟩ : ∃ status, s.status = some status ∧ status.isTerminal := by
    unfold isTerminal at ended
    cases present : s.status with
    | none => rw [present] at ended; cases ended
    | some status => exact ⟨status, rfl, by rwa [present] at ended⟩
  unfold step
  rw [identified named e]
  dsimp only
  split
  · simp [create, present]
  · simp [ended, admission, present, closed]

end Lifecycle

namespace MissionAudit

theorem step_ended {s : State} (ended : s.status.isTerminal) (e : Event) (x : Payload) :
    (step s e x).1 = s ∧ (step s e x).2 ≠ [] := by
  unfold step
  rw [if_pos ended]
  exact ⟨rfl, List.cons_ne_nil _ _⟩

end MissionAudit

namespace MissionNext

theorem beginRun_runId (s : State) (p : Payload.MissionRunStarted) :
    (beginRun s p).1.runId = s.runId := by
  unfold beginRun
  split <;> rfl

theorem completeStep_runId (s : State) (p : Payload.NextStepAutoCompleted) :
    (completeStep s p).1.runId = s.runId := by
  unfold completeStep
  dsimp only
  split <;> rfl

theorem ask_runId (s : State) (e : Event) (p : Payload.DecisionInputRequested) :
    (ask s e p).1.runId = s.runId := by
  unfold ask
  split <;> rfl

theorem answer_runId (s : State) (p : Payload.DecisionInputAnswered) :
    (answer s p).1.runId = s.runId := by
  unfold answer
  split <;> rfl

theorem proceed_runId (s : State) (e : Event) (x : Payload) :
    (proceed s e x).1.runId = s.runId := by
  unfold proceed
  split
  · exact beginRun_runId s _
  · rfl
  · exact completeStep_runId s _
  · exact ask_runId s e _
  · exact answer_runId s _
  · rfl
  · rfl

theorem step_runId (s : State) (e : Event) (x : Payload) :
    (step s e x).1.runId = s.runId.or (some e.aggregateId) := by
  unfold step
  dsimp only
  split
  · rfl
  · exact proceed_runId _ e x

theorem identified {s : State} (named : s.runId.isSome) (e : Event) :
    { s with runId := s.runId.or (some e.aggregateId) } = s := by
  rw [Option.or_of_isSome named]

/-- A run has its id from its first event on. -/
theorem runId_of_reached {s : State} (reached : projection.Reached s) :
    s.status.isSome → s.runId.isSome := by
  refine reached.keeps (fun t => t.status.isSome → t.runId.isSome) (fun _ => nofun)
    fun t e x _ _ => ?_
  have named : (projection.step t e x).1.runId = t.runId.or (some e.aggregateId) :=
    step_runId t e x
  rw [named]
  cases t.runId <;> rfl

theorem step_ended {s : State} (named : s.runId.isSome) (ended : s.status = some .completed)
    (e : Event) (x : Payload) : (step s e x).1 = s ∧ (step s e x).2 ≠ [] := by
  unfold step
  rw [identified named e]
  dsimp only
  rw [if_pos ended]
  exact ⟨rfl, List.cons_ne_nil _ _⟩

end MissionNext

namespace DecisionPoint

namespace Decision

variable {d : Decision}

theorem discuss_overridden (overridden : d.status = .overridden) (p : Payload.DecisionPointDiscussing) :
    d.discuss p = (d, [d.alreadyOverridden]) := by
  unfold discuss
  rw [overridden]

theorem resolve_overridden (overridden : d.status = .overridden) (p : Payload.DecisionPointResolved) :
    d.resolve p = (d, [d.alreadyOverridden]) := by
  unfold resolve
  rw [overridden]

theorem override_overridden (overridden : d.status = .overridden) (p : Payload.DecisionPointOverridden) :
    d.override p = (d, [d.alreadyOverridden]) := by
  unfold override
  rw [overridden]

end Decision

theorem openDecision_known {s : State} {p : Payload.DecisionPointOpened} {d : Decision}
    (known : decision? s p.decisionId = some d) :
    decision? (openDecision s p).1 p.decisionId = some d ∧ (openDecision s p).2 ≠ [] := by
  have present : s.decisions.contains p.decisionId = true := by
    unfold decision? at known
    rw [Index.contains, known]
    rfl
  unfold openDecision
  rw [if_pos present]
  exact ⟨known, List.cons_ne_nil _ _⟩

theorem change_known {s : State} {e : Event} {id : String} {d d' : Decision} {found : List Finding}
    {f : Decision → Decision × List Finding} (known : decision? s id = some d)
    (made : f d = (d', found)) :
    decision? (change s e id f).1 id = some d' ∧ (change s e id f).2 = found := by
  unfold decision? at known ⊢
  unfold change
  rw [known]
  dsimp only
  rw [made, Index.find?_insert, if_pos rfl]
  exact ⟨rfl, rfl⟩

theorem step_overridden {s : State} {e : Event} {x : Payload} {k : String} {d : Decision}
    (named : decisionId? x = some k) (known : decision? s k = some d)
    (overridden : d.status = .overridden) :
    decision? (step s e x).1 k = some d ∧ (step s e x).2 ≠ [] := by
  have refused {f : Decision → Decision × List Finding} (made : f d = (d, [d.alreadyOverridden])) :
      decision? (change s e k f).1 k = some d ∧ (change s e k f).2 ≠ [] := by
    obtain ⟨after, found⟩ := change_known (e := e) known made
    rw [found]
    exact ⟨after, List.cons_ne_nil _ _⟩
  cases x with
  | decisionPointOpened p => cases named; exact openDecision_known known
  | decisionPointDiscussing p => cases named; exact refused (Decision.discuss_overridden overridden p)
  | decisionPointResolved p => cases named; exact refused (Decision.resolve_overridden overridden p)
  | decisionPointOverridden p => cases named; exact refused (Decision.override_overridden overridden p)
  | _ => cases named

end DecisionPoint

namespace Sync

theorem change_ended {s : State} {e : Event} {id : String} {d : Delivery} {status : DeliveryStatus}
    {f : Option Delivery → Delivery → Delivery × List Finding} (known : delivery? s id = some d)
    (ended : d.status.isTerminal) :
    delivery? (change s e id status f).1 id = some d ∧ (change s e id status f).2 ≠ [] := by
  have kept := known
  unfold delivery? at known
  unfold change
  simp only [known, Option.getD_some, Option.isSome_some, ended, Bool.and_self, ↓reduceIte]
  exact ⟨kept, List.cons_ne_nil _ _⟩

theorem step_ended {s : State} {e : Event} {x : Payload} {k : String} {d : Delivery}
    (named : deliveryId? x = some k) (known : delivery? s k = some d) (ended : d.status.isTerminal) :
    delivery? (step s e x).1 k = some d ∧ (step s e x).2 ≠ [] := by
  cases x with
  | syncIngestAccepted p => cases named; exact change_ended known ended
  | syncIngestRejected p => cases named; exact change_ended known ended
  | syncRetryScheduled p => cases named; exact change_ended known ended
  | syncDeadLettered p => cases named; exact change_ended known ended
  | _ => cases named

end Sync

namespace Status

def isForced : Payload → Bool
  | .wpStatusChanged c => c.force
  | _ => false

theorem apply_ended {s : State} {e : Event} {c : Payload.WpStatusChanged} {wp : WorkPackage}
    (known : workPackage? s c.wpId = some wp) (ended : wp.lane.isTerminal) (unforced : c.force = false) :
    workPackage? (apply s e c).1 c.wpId = some wp ∧ (apply s e c).2 ≠ [] := by
  by_cases superseded : s.superseded.contains e.id
  · unfold apply
    rw [if_pos superseded]
    exact ⟨known, List.cons_ne_nil _ _⟩
  · unfold workPackage? at known ⊢
    unfold apply
    rw [if_neg superseded]
    simp only [known, Option.getD_some, unforced, ended, Bool.false_eq_true, ↓reduceIte,
      Index.find?_insert, true_and]
    exact List.append_ne_nil_of_right_ne_nil _ (List.cons_ne_nil _ _)

theorem step_ended {s : State} {e : Event} {x : Payload} {k : String} {wp : WorkPackage}
    (named : wpId? x = some k) (known : workPackage? s k = some wp) (ended : wp.lane.isTerminal)
    (unforced : isForced x = false) :
    workPackage? (step s e x).1 k = some wp ∧ (step s e x).2 ≠ [] := by
  cases x with
  | wpStatusChanged c => cases named; exact apply_ended known ended unforced
  | _ => cases named

end Status

/-- A record that the events naming it leave as it is, and report, is absorbing. -/
theorem Family.absorbs_of_step {σ ρ : Type} {p : Projection σ} (F : Family p ρ) {Allowed : Payload → Prop}
    {s : σ} {k : String} {r : ρ} (known : F.record? s k = some r)
    (stays : ∀ t e x, F.names x = some k → Allowed x → F.record? t k = some r →
      F.record? (p.step t e x).1 k = some r ∧ (p.step t e x).2 ≠ []) :
    p.Absorbs (F.record? · k) Allowed (F.names · = some k) s := by
  refine Projection.absorbs_of_step fun t e x same allowed => ?_
  by_cases named : F.names x = some k
  · have here : F.record? t k = some r := same.trans known
    obtain ⟨after, reported⟩ := stays t e x named allowed here
    exact ⟨after.trans known.symm, fun _ => reported⟩
  · exact ⟨(F.record?_other named).trans same, fun concerns => absurd concerns named⟩

/-- What has ended absorbs what comes after it: a mission, an audit or a run as a whole, a decision,
    a delivery or a work package as one record of many. Only a forced move takes a work package out of
    where it ended. -/
theorem terminal_states_absorb :
    (∀ s, Lifecycle.projection.Reached s → Lifecycle.isTerminal s →
      Lifecycle.projection.Absorbs id (fun _ => True) (fun _ => True) s) ∧
    (∀ s : MissionAudit.State, s.status.isTerminal →
      MissionAudit.projection.Absorbs id (fun _ => True) (fun _ => True) s) ∧
    (∀ s, MissionNext.projection.Reached s → s.status = some .completed →
      MissionNext.projection.Absorbs id (fun _ => True) (fun _ => True) s) ∧
    (∀ s k d, DecisionPoint.decision? s k = some d → d.status = .overridden →
      DecisionPoint.projection.Absorbs (DecisionPoint.decision? · k) (fun _ => True)
        (DecisionPoint.decisionId? · = some k) s) ∧
    (∀ s k d, Sync.delivery? s k = some d → d.status.isTerminal →
      Sync.projection.Absorbs (Sync.delivery? · k) (fun _ => True) (Sync.deliveryId? · = some k) s) ∧
    ∀ s k wp, Status.workPackage? s k = some wp → wp.lane.isTerminal →
      Status.projection.Absorbs (Status.workPackage? · k)
        (fun x => Status.wpId? x = some k → Status.isForced x = false) (Status.wpId? · = some k) s := by
  refine ⟨fun s reached ended => ?_, fun s ended => ?_, fun s reached ended => ?_,
    fun s k d known overridden => ?_, fun s k d known ended => ?_, fun s k wp known ended => ?_⟩
  · have named : s.missionId.isSome := by
      refine Lifecycle.missionId_of_reached reached ?_
      cases status : s.status with
      | none => rw [Lifecycle.isTerminal, status] at ended; cases ended
      | some _ => rfl
    refine Projection.absorbs_of_step fun t e x same _ => ?_
    obtain rfl : t = s := same
    exact (Lifecycle.step_ended named ended e x).imp_right fun reported _ => reported
  · refine Projection.absorbs_of_step fun t e x same _ => ?_
    obtain rfl : t = s := same
    exact (MissionAudit.step_ended ended e x).imp_right fun reported _ => reported
  · have named : s.runId.isSome := MissionNext.runId_of_reached reached (by rw [ended]; rfl)
    refine Projection.absorbs_of_step fun t e x same _ => ?_
    obtain rfl : t = s := same
    exact (MissionNext.step_ended named ended e x).imp_right fun reported _ => reported
  · exact DecisionPoint.decisions.absorbs_of_step known
      fun _ _ _ named _ here => DecisionPoint.step_overridden named here overridden
  · exact Sync.deliveries.absorbs_of_step known
      fun _ _ _ named _ here => Sync.step_ended named here ended
  · exact Status.workPackages.absorbs_of_step known
      fun _ _ _ named unforced here => Status.step_ended named here ended (unforced named)

/-- One event is enough to end each of them, and it is then left as it is. -/
theorem terminal_states_absorb_first_events :
    let e := Event.plain "e1" 1 "" (.object [])
    let mission := (Lifecycle.projection.fold {} (.empty .lifecycle)
      [(e, .missionCancelled ⟨some "late"⟩)]).1
    let audit := (MissionAudit.projection.fold {} (.empty .missionAudit)
      [(e, .missionAuditFailed ⟨"E1", "no answer", none⟩)]).1
    let run := (MissionNext.projection.fold {} (.empty .missionNext)
      [(e, .missionRunCompleted ⟨some "done"⟩)]).1
    let decision := (DecisionPoint.projection.fold {} (.empty .decisionPoint)
      [(e, .decisionPointOverridden ⟨"D1", "b", none, none⟩)]).1
    let delivery := (Sync.projection.fold {} (.empty .sync)
      [(e, .syncDeadLettered ⟨"S1", "expired", 3⟩)]).1
    let package := (Status.projection.fold (Status.start []) (.empty .status)
      [(e, .wpStatusChanged ⟨"slug", "WP01", .planned, .canceled, "agent", false, none, none, none⟩)]).1
    Lifecycle.projection.Absorbs id (fun _ => True) (fun _ => True) mission ∧
      MissionAudit.projection.Absorbs id (fun _ => True) (fun _ => True) audit ∧
      MissionNext.projection.Absorbs id (fun _ => True) (fun _ => True) run ∧
      DecisionPoint.projection.Absorbs (DecisionPoint.decision? · "D1") (fun _ => True)
        (DecisionPoint.decisionId? · = some "D1") decision ∧
      Sync.projection.Absorbs (Sync.delivery? · "S1") (fun _ => True)
        (Sync.deliveryId? · = some "S1") delivery ∧
      Status.projection.Absorbs (Status.workPackage? · "WP01")
        (fun x => Status.wpId? x = some "WP01" → Status.isForced x = false)
        (Status.wpId? · = some "WP01") package := by
  intro e mission audit run decision delivery package
  obtain ⟨missions, audits, runs, decisions, deliveries, packages⟩ := terminal_states_absorb
  exact ⟨missions mission ⟨[], _, _, rfl⟩ rfl, audits audit rfl,
    runs run ⟨[], _, _, rfl⟩ rfl, decisions decision "D1" _ rfl rfl,
    deliveries delivery "S1" _ rfl rfl, packages package "WP01" _ rfl rfl⟩

end EventLedger
