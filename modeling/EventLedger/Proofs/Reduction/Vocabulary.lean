import EventLedger.Proofs.Reduction.Screening

/-! Each domain reports oddities of a few kinds only, and none of those that are screened out before
a fold. -/

namespace EventLedger

/-- Whatever is found is of one of the kinds. -/
def Reports (kinds : List AnomalyKind) (found : List Finding) : Prop := ∀ f ∈ found, f.kind ∈ kinds

variable {kinds : List AnomalyKind}

@[simp] theorem reports_nil : Reports kinds [] := fun _ member => absurd member List.not_mem_nil

@[simp] theorem reports_cons {f : Finding} {found : List Finding} :
    Reports kinds (f :: found) ↔ f.kind ∈ kinds ∧ Reports kinds found := List.forall_mem_cons

@[simp] theorem reports_append {front back : List Finding} :
    Reports kinds (front ++ back) ↔ Reports kinds front ∧ Reports kinds back := List.forall_mem_append

namespace Status

def vocabulary : List AnomalyKind :=
  [.fromLaneMismatch, .forceWithoutReason, .supersededByRollback, .eventAfterTerminal,
    .invalidTransition]

theorem mismatch_reports (lane : Lane) (c : Payload.WpStatusChanged) :
    Reports vocabulary (mismatch lane c) := by
  unfold mismatch
  split <;> simp [vocabulary]

theorem withoutReason_reports (c : Payload.WpStatusChanged) :
    Reports vocabulary (withoutReason c) := by
  unfold withoutReason
  split <;> simp [vocabulary]

theorem apply_reports (s : State) (e : Event) (c : Payload.WpStatusChanged) :
    Reports vocabulary (apply s e c).2 := by
  have moved (lane : Lane) := mismatch_reports lane c
  have forced := withoutReason_reports c
  unfold apply
  split
  · simp [vocabulary]
  · dsimp only
    split_ifs <;> simp only [reports_append, moved, forced, true_and] <;> simp [vocabulary]

theorem step_reports (s : State) (e : Event) (p : Payload) :
    Reports vocabulary (step s e p).2 := by
  unfold step
  split
  · exact apply_reports s e _
  · exact reports_nil

end Status

namespace Lifecycle

def vocabulary : List AnomalyKind :=
  [.eventBeforeCreated, .eventAfterTerminal, .invalidTransition, .duplicateStart]

theorem admission_reports (s : State) (e : Event) : Reports vocabulary (admission s e) := by
  unfold admission
  split
  · simp [vocabulary]
  · split <;> simp [vocabulary]

theorem unexpectedMove_reports (s : State) (allowed : List MissionStatus)
    (target : MissionStatus) : Reports vocabulary (unexpectedMove s allowed target) := by
  unfold unexpectedMove
  split
  · split <;> simp [vocabulary]
  · exact reports_nil

theorem create_reports (s : State) (p : Payload.MissionCreated) :
    Reports vocabulary (create s p).2 := by
  unfold create
  split <;> simp [vocabulary]

theorem proceed_reports (s : State) (e : Event) (p : Payload) :
    Reports vocabulary (proceed s e p).2 := by
  unfold proceed
  split
  · split <;> simp [vocabulary]
  · exact reports_nil
  · exact unexpectedMove_reports s _ _
  · exact unexpectedMove_reports s _ _
  · exact unexpectedMove_reports s _ _
  · exact unexpectedMove_reports s _ _
  · exact reports_nil

theorem step_reports (s : State) (e : Event) (p : Payload) :
    Reports vocabulary (step s e p).2 := by
  unfold step
  dsimp only
  split
  · exact create_reports _ _
  · split
    · exact admission_reports _ e
    · exact reports_append.mpr ⟨admission_reports _ e, proceed_reports _ e p⟩

end Lifecycle

namespace MissionAudit

def vocabulary : List AnomalyKind :=
  [.eventBeforeRequested, .duplicateStart, .duplicateDecisionId, .invalidTransition,
    .eventAfterTerminal]

theorem unrequested_reports (s : State) (e : Event) : Reports vocabulary (unrequested s e) := by
  unfold unrequested
  split <;> simp [vocabulary]

theorem prematureEnd_reports (s : State) : Reports vocabulary (prematureEnd s) := by
  unfold prematureEnd
  split <;> simp [vocabulary]

theorem request_reports (s : State) (p : Payload.MissionAuditRequested) :
    Reports vocabulary (request s p).2 := by
  unfold request
  split <;> simp [vocabulary]

theorem commence_reports (s : State) (p : Payload.MissionAuditStarted) :
    Reports vocabulary (commence s p).2 := by
  unfold commence
  split <;> simp [vocabulary]

theorem ask_reports (s : State) (e : Event) (p : Payload.MissionAuditDecisionRequested) :
    Reports vocabulary (ask s e p).2 := by
  unfold ask
  split <;> simp [vocabulary]

theorem proceed_reports (s : State) (e : Event) (p : Payload) :
    Reports vocabulary (proceed s e p).2 := by
  have early := unrequested_reports s e
  unfold proceed
  split
  · exact request_reports s _
  · exact reports_append.mpr ⟨early, commence_reports _ _⟩
  · exact reports_append.mpr ⟨early, ask_reports _ e _⟩
  · exact reports_append.mpr ⟨prematureEnd_reports s, early⟩
  · exact early
  · exact reports_nil

theorem step_reports (s : State) (e : Event) (p : Payload) :
    Reports vocabulary (step s e p).2 := by
  unfold step
  split
  · simp [vocabulary]
  · exact proceed_reports s e p

end MissionAudit

namespace DecisionPoint

def vocabulary : List AnomalyKind :=
  [.eventBeforeOpened, .eventAfterTerminal, .invalidOption, .invalidTransition,
    .duplicateDecisionId]

namespace Decision

theorem strayOption_reports (d : Decision) (option : String) :
    Reports vocabulary (d.strayOption option) := by
  unfold strayOption
  split <;> simp [vocabulary]

theorem discuss_reports (d : Decision) (p : Payload.DecisionPointDiscussing) :
    Reports vocabulary (d.discuss p).2 := by
  unfold discuss
  dsimp only
  split <;> simp [vocabulary, alreadyOverridden]

theorem resolve_reports (d : Decision) (p : Payload.DecisionPointResolved) :
    Reports vocabulary (d.resolve p).2 := by
  have stray := d.strayOption_reports p.chosenOption
  unfold resolve
  split
  · simp [vocabulary, alreadyOverridden]
  · simp [vocabulary]
  · exact stray
  · exact stray

theorem override_reports (d : Decision) (p : Payload.DecisionPointOverridden) :
    Reports vocabulary (d.override p).2 := by
  have stray := d.strayOption_reports p.chosenOption
  unfold override
  dsimp only
  split
  · simp [vocabulary, alreadyOverridden]
  · exact stray
  · exact reports_cons.mpr ⟨by simp [vocabulary], stray⟩
  · exact reports_cons.mpr ⟨by simp [vocabulary], stray⟩

end Decision

theorem openDecision_reports (s : State) (p : Payload.DecisionPointOpened) :
    Reports vocabulary (openDecision s p).2 := by
  unfold openDecision
  split <;> simp [vocabulary]

theorem change_reports (s : State) (e : Event) (id : String)
    {f : Decision → Decision × List Finding} (h : ∀ d, Reports vocabulary (f d).2) :
    Reports vocabulary (change s e id f).2 := by
  unfold change
  cases s.decisions.find? id with
  | some d => exact reports_append.mpr ⟨reports_nil, h d⟩
  | none => exact reports_append.mpr ⟨by simp [vocabulary], h _⟩

theorem step_reports (s : State) (e : Event) (p : Payload) :
    Reports vocabulary (step s e p).2 := by
  unfold step
  split
  · exact openDecision_reports s _
  · exact change_reports s e _ fun d => d.discuss_reports _
  · exact change_reports s e _ fun d => d.resolve_reports _
  · exact change_reports s e _ fun d => d.override_reports _
  · exact reports_nil

end DecisionPoint

namespace Connector

def vocabulary : List AnomalyKind :=
  [.eventBeforeProvisioned, .eventAfterTerminal, .invalidTransition, .duplicateStart]

namespace Connection

theorem recover_reports (c : Connection) : Reports vocabulary c.recover.2 := by
  unfold recover
  dsimp only
  split <;> simp [vocabulary]

theorem decommission_reports (c : Connection) : Reports vocabulary c.decommission.2 := by
  unfold decommission
  dsimp only
  split <;> simp [vocabulary]

theorem proceed_reports (c : Connection) (p : Payload) : Reports vocabulary (c.proceed p).2 := by
  unfold proceed
  split
  · exact reports_nil
  · exact reports_nil
  · exact c.recover_reports
  · exact reports_nil
  · exact c.decommission_reports
  · exact reports_nil

theorem refusal?_reports {c : Connection} {e : Event} {p : Payload} {f : Finding}
    (refused : c.refusal? e p = some f) : f.kind ∈ vocabulary := by
  unfold refusal? at refused
  split at refused
  · rw [← Option.some.inj refused]; simp [vocabulary]
  · cases refused
  · rw [← Option.some.inj refused]; simp [vocabulary]
  · cases refused

/-- What is odd about an event on a connector that is known. -/
def objections (c : Connection) (e : Event) (p : Payload) : List Finding :=
  match c.refusal? e p with
  | some f => [f]
  | none => (c.proceed p).2

theorem objections_reports (c : Connection) (e : Event) (p : Payload) :
    Reports vocabulary (c.objections e p) := by
  unfold objections
  split
  · rename_i f refused
    exact reports_cons.mpr ⟨refusal?_reports refused, reports_nil⟩
  · exact c.proceed_reports p

end Connection

theorem change_known {s : State} {e : Event} {id : String} {c : Connection} (p : Payload)
    (known : s.connectors.find? id = some c) : (change s e id p).2 = c.objections e p := by
  unfold change Connection.objections
  rw [known]
  cases refused : c.refusal? e p <;> simp only [refused] <;> rfl

theorem change_unknown {s : State} {e : Event} {id : String} (p : Payload)
    (unknown : s.connectors.find? id = none) :
    (change s e id p).2 =
      ⟨.eventBeforeProvisioned, e.eventType ++ " for unprovisioned connector " ++ id⟩ ::
        (Connection.unprovisioned id e.id).objections e p := by
  unfold change Connection.objections
  rw [unknown]
  cases refused : (Connection.unprovisioned id e.id).refusal? e p <;> simp only [refused] <;> rfl

theorem provision_reports (s : State) (e : Event) (p : Payload.ConnectorProvisioned) :
    Reports vocabulary (provision s e p).2 := by
  unfold provision
  dsimp only
  split <;> simp [vocabulary]

theorem change_reports (s : State) (e : Event) (id : String) (p : Payload) :
    Reports vocabulary (change s e id p).2 := by
  cases known : s.connectors.find? id with
  | some c =>
    rw [change_known p known]
    exact c.objections_reports e p
  | none =>
    rw [change_unknown p known, reports_cons]
    exact ⟨by simp [vocabulary], Connection.objections_reports _ e p⟩

theorem step_reports (s : State) (e : Event) (p : Payload) :
    Reports vocabulary (step s e p).2 := by
  unfold step
  split
  · exact provision_reports s e _
  · split
    · exact change_reports s e _ p
    · exact reports_nil

end Connector

namespace Sync

def vocabulary : List AnomalyKind :=
  [.eventAfterTerminal, .attemptRegression, .retryWithoutRejection]

theorem Delivery.retry_reports (d : Delivery) (p : Payload.SyncRetryScheduled) :
    Reports vocabulary (d.retry p).2 := by
  unfold Delivery.retry
  dsimp only
  split <;> simp [vocabulary]

theorem withoutRejection_reports (known : Option Delivery) (id : String) :
    Reports vocabulary (withoutRejection known id) := by
  unfold withoutRejection
  split <;> simp [vocabulary]

theorem change_reports (s : State) (e : Event) (id : String) (status : DeliveryStatus)
    {f : Option Delivery → Delivery → Delivery × List Finding}
    (h : ∀ known d, Reports vocabulary (f known d).2) :
    Reports vocabulary (change s e id status f).2 := by
  unfold change
  dsimp only
  split
  · simp [vocabulary]
  · exact h _ _

theorem step_reports (s : State) (e : Event) (p : Payload) :
    Reports vocabulary (step s e p).2 := by
  unfold step
  split
  · exact change_reports s e _ _ fun _ _ => reports_nil
  · exact change_reports s e _ _ fun _ _ => reports_nil
  · exact change_reports s e _ _ fun known d =>
      reports_append.mpr ⟨withoutRejection_reports known _, d.retry_reports _⟩
  · exact change_reports s e _ _ fun _ _ => reports_nil
  · exact reports_nil

end Sync

namespace MissionNext

def vocabulary : List AnomalyKind :=
  [.eventBeforeRunStarted, .eventAfterTerminal, .duplicateStart, .stepMismatch,
    .duplicateDecisionId, .unknownDecision, .invalidOption]

theorem beginRun_reports (s : State) (p : Payload.MissionRunStarted) :
    Reports vocabulary (beginRun s p).2 := by
  unfold beginRun
  split <;> simp [vocabulary]

theorem completeStep_reports (s : State) (p : Payload.NextStepAutoCompleted) :
    Reports vocabulary (completeStep s p).2 := by
  unfold completeStep
  dsimp only
  split <;> simp [vocabulary]

theorem ask_reports (s : State) (e : Event) (p : Payload.DecisionInputRequested) :
    Reports vocabulary (ask s e p).2 := by
  unfold ask
  split <;> simp [vocabulary]

theorem answer_reports (s : State) (p : Payload.DecisionInputAnswered) :
    Reports vocabulary (answer s p).2 := by
  unfold answer
  split
  · simp [vocabulary]
  · dsimp only
    split <;> simp [vocabulary]

theorem proceed_reports (s : State) (e : Event) (p : Payload) :
    Reports vocabulary (proceed s e p).2 := by
  unfold proceed
  split
  · exact beginRun_reports s _
  · exact reports_nil
  · exact completeStep_reports s _
  · exact ask_reports s e _
  · exact answer_reports s _
  · exact reports_nil
  · exact reports_nil

theorem premature_reports (s : State) (e : Event) (p : Payload) :
    Reports vocabulary (premature s e p) := by
  unfold premature
  split <;> simp [vocabulary]

theorem step_reports (s : State) (e : Event) (p : Payload) :
    Reports vocabulary (step s e p).2 := by
  unfold step
  dsimp only
  split
  · simp [vocabulary]
  · exact reports_append.mpr ⟨premature_reports _ e p, proceed_reports _ e p⟩

end MissionNext

namespace Collaboration

def vocabulary : List AnomalyKind := [.unknownParticipant, .participantNotJoined, .unknownWarning]

theorem change_reports (s : State) (e : Event) (id : String) (f : Participant → Participant) :
    Reports vocabulary (change s e id f).2 := by
  unfold change
  split
  · simp [vocabulary]
  · split <;> simp [vocabulary]

theorem acknowledge_reports (s : State) (p : Payload.WarningAcknowledged) :
    Reports vocabulary (acknowledge s p).2 := by
  unfold acknowledge
  dsimp only
  split <;> split <;> simp [vocabulary]

theorem step_reports (s : State) (e : Event) (p : Payload) :
    Reports vocabulary (step s e p).2 := by
  unfold step
  dsimp only
  split
  · exact reports_nil
  · exact reports_nil
  · exact change_reports _ e _ _
  · exact change_reports _ e _ _
  · exact change_reports _ e _ _
  · exact change_reports _ e _ _
  · exact reports_nil
  · exact acknowledge_reports _ _
  · exact reports_nil

end Collaboration

namespace Glossary

def vocabulary : List AnomalyKind :=
  [.scopeNotActive, .duplicateClarificationId, .unknownClarification]

theorem changeTerm_reports (s : State) (e : Event) (scopeId term : String) (f : Term → Term) :
    Reports vocabulary (changeTerm s e scopeId term f).2 := by
  unfold changeTerm
  dsimp only
  split <;> simp [vocabulary]

theorem request_reports (s : State) (p : Payload.GlossaryClarificationRequested) :
    Reports vocabulary (request s p).2 := by
  unfold request
  dsimp only
  split <;> simp [vocabulary]

theorem resolve_reports (s : State) (p : Payload.GlossaryClarificationResolved) :
    Reports vocabulary (resolve s p).2 := by
  unfold resolve
  split <;> simp [vocabulary]

theorem step_reports (s : State) (e : Event) (p : Payload) :
    Reports vocabulary (step s e p).2 := by
  unfold step
  split
  · exact reports_nil
  · exact reports_nil
  · exact changeTerm_reports s e _ _ _
  · exact changeTerm_reports s e _ _ _
  · exact request_reports s _
  · exact resolve_reports s _
  · exact reports_nil
  · exact reports_nil
  · exact reports_nil

end Glossary

namespace Domain

def vocabulary : Domain → List AnomalyKind
  | .status => Status.vocabulary
  | .lifecycle => Lifecycle.vocabulary
  | .missionAudit => MissionAudit.vocabulary
  | .decisionPoint => DecisionPoint.vocabulary
  | .connector => Connector.vocabulary
  | .sync => Sync.vocabulary
  | .missionNext => MissionNext.vocabulary
  | .collaboration => Collaboration.vocabulary
  | .glossary => Glossary.vocabulary

theorem step_reports (d : Domain) (s : d.State) (e : Event) (p : Payload) :
    Reports d.vocabulary (d.projection.step s e p).2 := by
  cases d with
  | status => exact Status.step_reports s e p
  | lifecycle => exact Lifecycle.step_reports s e p
  | missionAudit => exact MissionAudit.step_reports s e p
  | decisionPoint => exact DecisionPoint.step_reports s e p
  | connector => exact Connector.step_reports s e p
  | sync => exact Sync.step_reports s e p
  | missionNext => exact MissionNext.step_reports s e p
  | collaboration => exact Collaboration.step_reports s e p
  | glossary => exact Glossary.step_reports s e p

theorem not_isScreened_of_mem_vocabulary {d : Domain} {k : AnomalyKind}
    (member : k ∈ d.vocabulary) : ¬ k.IsScreened := by
  have apart : ∀ d ∈ all, ∀ k ∈ d.vocabulary, ¬ k.IsScreened := by decide
  exact apart d (mem_all d) k member

end Domain
end EventLedger
