import EventLedger.Reduction.Basic

namespace EventLedger.MissionNext

inductive RunStatus where
  | running
  | waitingInput
  | completed
deriving DecidableEq, Repr

def RunStatus.name : RunStatus → String
  | .running => "running"
  | .waitingInput => "waiting_input"
  | .completed => "completed"

structure IssuedStep where
  stepId : String
  action : String
deriving DecidableEq, Repr

def IssuedStep.toJson (x : IssuedStep) : Json :=
  .object [("step_id", .string x.stepId), ("action", .string x.action)]

structure CompletedStep where
  stepId : String
  result : StepResult
deriving DecidableEq, Repr

def CompletedStep.toJson (x : CompletedStep) : Json :=
  .object [("step_id", .string x.stepId), ("result", x.result.toJson)]

structure AnsweredDecision where
  decisionId : String
  answer : String
  actor : Option String
deriving DecidableEq, Repr

def AnsweredDecision.toJson (x : AnsweredDecision) : Json :=
  .object [("decision_id", .string x.decisionId), ("answer", .string x.answer),
    ("actor", .text? x.actor)]

structure State where
  runId : Option String := none
  status : Option RunStatus := none
  missionType : Option String := none
  currentStep : Option IssuedStep := none
  completedSteps : List CompletedStep := []
  pending : List PendingDecision := []
  answered : List AnsweredDecision := []
  outcome : Option String := none
deriving DecidableEq, Repr

def settle (s : State) : State :=
  { s with status := some (if s.pending.isEmpty then .running else .waitingInput) }

def beginRun (s : State) (p : Payload.MissionRunStarted) : State × List Finding :=
  if s.status.isSome then
    (s, [⟨.duplicateStart, "MissionRunStarted on a run already started"⟩])
  else (settle { s with missionType := some p.missionType }, [])

def completeStep (s : State) (p : Payload.NextStepAutoCompleted) : State × List Finding :=
  let after := { s with completedSteps := s.completedSteps ++ [⟨p.stepId, p.result⟩] }
  if (s.currentStep.map (·.stepId)) = some p.stepId then
    (settle { after with currentStep := none }, [])
  else
    (settle after,
      [⟨.stepMismatch, "Step " ++ p.stepId ++ " completed but was not the current step"⟩])

def ask (s : State) (e : Event) (p : Payload.DecisionInputRequested) : State × List Finding :=
  if s.pending.any fun d => d.decisionId == p.decisionId then
    (s, [⟨.duplicateDecisionId, "Decision " ++ p.decisionId ++ " is already pending"⟩])
  else
    (settle { s with pending := s.pending ++ [⟨p.decisionId, p.question, p.options, e.id⟩] }, [])

/-- An answer settles its decision even when it is none of the options. -/
def answer (s : State) (p : Payload.DecisionInputAnswered) : State × List Finding :=
  match s.pending.find? fun d => d.decisionId == p.decisionId with
  | none => (s, [⟨.unknownDecision, "Answer for unknown decision " ++ p.decisionId⟩])
  | some d =>
    (settle { s with
        pending := s.pending.eraseP fun d => d.decisionId == p.decisionId
        answered := s.answered ++ [⟨d.decisionId, p.answer, p.actor⟩] },
      if d.accepts p.answer then []
      else
        [⟨.invalidOption, "'" ++ p.answer ++ "' is not an option of decision " ++ d.decisionId⟩])

def proceed (s : State) (e : Event) : Payload → State × List Finding
  | .missionRunStarted p => beginRun s p
  | .nextStepIssued p => (settle { s with currentStep := some ⟨p.stepId, p.action⟩ }, [])
  | .nextStepAutoCompleted p => completeStep s p
  | .decisionInputRequested p => ask s e p
  | .decisionInputAnswered p => answer s p
  | .missionRunCompleted p =>
    ({ s with
        status := some .completed, outcome := p.outcome, pending := [], currentStep := none }, [])
  | _ => (settle s, [])

def premature (s : State) (e : Event) (p : Payload) : List Finding :=
  match s.status, p with
  | none, .missionRunStarted _ => []
  | none, _ => [⟨.eventBeforeRunStarted, e.eventType ++ " before MissionRunStarted"⟩]
  | some _, _ => []

def step (s : State) (e : Event) (p : Payload) : State × List Finding :=
  let s := { s with runId := s.runId.or (some e.aggregateId) }
  if s.status = some .completed then
    (s, [⟨.eventAfterTerminal, e.eventType ++ " after the run completed"⟩])
  else
    let (after, found) := proceed s e p
    (after, premature s e p ++ found)

def kinds : List Kind :=
  [.missionRunStarted, .nextStepIssued, .nextStepAutoCompleted, .decisionInputRequested,
    .decisionInputAnswered, .missionRunCompleted]

def projection : Projection State := ⟨.missionNext, kinds, fun _ => {}, step⟩

def State.members (s : State) : List (String × Json) :=
  [("run_id", .text? s.runId),
    ("status", .optional (fun (x : RunStatus) => .string x.name) s.status),
    ("mission_type", .text? s.missionType),
    ("current_step", .optional IssuedStep.toJson s.currentStep),
    ("completed_steps", .array (s.completedSteps.map CompletedStep.toJson)),
    ("pending_decisions", .array (s.pending.map PendingDecision.toJson)),
    ("answered_decisions", .array (s.answered.map AnsweredDecision.toJson)),
    ("outcome", .text? s.outcome)]

end EventLedger.MissionNext
