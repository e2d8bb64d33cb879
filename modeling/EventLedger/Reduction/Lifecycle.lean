import EventLedger.Reduction.Basic

namespace EventLedger.Lifecycle

inductive MissionStatus where
  | created
  | active
  | paused
  | completed
  | cancelled
deriving DecidableEq, Repr

namespace MissionStatus

def name : MissionStatus → String
  | .created => "created"
  | .active => "active"
  | .paused => "paused"
  | .completed => "completed"
  | .cancelled => "cancelled"

def isTerminal : MissionStatus → Bool
  | .completed | .cancelled => true
  | _ => false

end MissionStatus

structure PhaseRecord where
  phase : String
  eventId : EventId
  lamportClock : Nat
deriving DecidableEq, Repr

def PhaseRecord.toJson (r : PhaseRecord) : Json :=
  .object [("phase", .string r.phase), ("event_id", .string r.eventId.text),
    ("lamport_clock", .nat r.lamportClock)]

structure State where
  missionId : Option String := none
  status : Option MissionStatus := none
  missionType : Option String := none
  title : Option String := none
  currentPhase : Option String := none
  phaseHistory : List PhaseRecord := []
  pauseReason : Option String := none
  outcome : Option String := none
deriving DecidableEq, Repr

def admission (s : State) (e : Event) : List Finding :=
  match s.status with
  | none => [⟨.eventBeforeCreated, e.eventType ++ " before MissionCreated"⟩]
  | some status =>
    if status.isTerminal then
      [⟨.eventAfterTerminal, e.eventType ++ " after mission " ++ status.name⟩]
    else []

def unexpectedMove (s : State) (allowed : List MissionStatus) (target : MissionStatus) :
    List Finding :=
  match s.status with
  | some current =>
    if allowed.contains current then []
    else
      [⟨.invalidTransition, "Mission cannot go " ++ current.name ++ " -> " ++ target.name⟩]
  | none => []

def create (s : State) (p : Payload.MissionCreated) : State × List Finding :=
  if s.status.isSome then
    (s, [⟨.duplicateStart, "MissionCreated after the mission already exists"⟩])
  else
    ({ s with status := some .created, missionType := some p.missionType, title := p.title }, [])

def proceed (s : State) (e : Event) : Payload → State × List Finding
  | .missionStarted _ =>
    if s.status = some .active ∨ s.status = some .paused then
      (s, [⟨.duplicateStart, "MissionStarted on a mission already started"⟩])
    else ({ s with status := some .active }, [])
  | .phaseEntered p =>
    ({ s with
        currentPhase := some p.phase
        phaseHistory := s.phaseHistory ++ [⟨p.phase, e.id, e.lamportClock⟩] }, [])
  | .missionPaused p =>
    ({ s with status := some .paused, pauseReason := p.reason }, unexpectedMove s [.active] .paused)
  | .missionResumed _ =>
    ({ s with status := some .active, pauseReason := none }, unexpectedMove s [.paused] .active)
  | .missionCompleted p =>
    ({ s with status := some .completed, outcome := p.summary },
      unexpectedMove s [.active] .completed)
  | .missionCancelled p =>
    ({ s with status := some .cancelled, outcome := p.reason },
      unexpectedMove s [.created, .active, .paused] .cancelled)
  | _ => (s, [])

def isTerminal (s : State) : Bool := (s.status.map MissionStatus.isTerminal).getD false

def step (s : State) (e : Event) (p : Payload) : State × List Finding :=
  let s := { s with missionId := s.missionId.or (some e.aggregateId) }
  match p with
  | .missionCreated p => create s p
  | p =>
    if isTerminal s then (s, admission s e)
    else
      let (after, found) := proceed s e p
      (after, admission s e ++ found)

def kinds : List Kind :=
  [.missionCreated, .missionStarted, .phaseEntered, .missionPaused, .missionResumed,
    .missionCompleted, .missionCancelled]

def projection : Projection State := ⟨.lifecycle, kinds, fun _ => {}, step⟩

def State.members (s : State) : List (String × Json) :=
  [("mission_id", .text? s.missionId),
    ("status", .optional (fun (x : MissionStatus) => .string x.name) s.status),
    ("mission_type", .text? s.missionType), ("title", .text? s.title),
    ("current_phase", .text? s.currentPhase),
    ("phase_history", .array (s.phaseHistory.map PhaseRecord.toJson)),
    ("pause_reason", .text? s.pauseReason), ("outcome", .text? s.outcome)]

end EventLedger.Lifecycle
