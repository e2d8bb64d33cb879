import EventLedger.Proofs.Reduction.AuditCourse
import EventLedger.Proofs.Reduction.Choice
import EventLedger.Proofs.Reduction.Health
import EventLedger.Proofs.Reduction.Mission
import EventLedger.Proofs.Reduction.Run

/-! What the first event leaves that a mission, an audit, a run, a connector or a decision is known by.
Main statements: what only an event that starts it says is kept if that comes first, and never later. -/

namespace EventLedger

section Status

variable {α β : Type} {was now : Option α} {earlier later given : Option β}

theorem kept_of_blank {Unset : Prop} [Decidable Unset] (blank : Unset → earlier = none)
    (nothing : given = none) : earlier = if Unset then given else earlier := by
  split
  · rename_i unset
    exact (blank unset).trans nothing.symm
  · rfl

variable {Passes : Prop} [Decidable Passes]

/-- A field that is set with the first status, by an event that is not passed by. -/
theorem set_with_status (unknown : now = none ↔ was = none ∧ Passes)
    (set : later = if was = none then given else earlier) :
    (now.map fun _ => later) = (was.map fun _ => earlier).or (if ¬ Passes then some given else none) := by
  cases was with
  | some status =>
    obtain ⟨status', known⟩ := Option.ne_none_iff_exists'.mp (mt unknown.mp nofun)
    rw [known, set]
    rfl
  | none =>
    rw [if_pos rfl] at set
    by_cases passes : Passes
    · rw [unknown.mpr ⟨rfl, passes⟩, if_neg (not_not_intro passes)]
      rfl
    · obtain ⟨status, known⟩ := Option.ne_none_iff_exists'.mp fun none => passes (unknown.mp none).2
      rw [known, if_pos passes, set]
      rfl

end Status

namespace Lifecycle

variable {s : State} {e : Event} {x : Payload}

def created? : Payload → Option String
  | .missionCreated p => some p.missionType
  | _ => none

/-- The type of a mission, from its status on. -/
def shownType? (s : State) : Option (Option String) := s.status.map fun _ => s.missionType

theorem proceed_missionType (s : State) (e : Event) (x : Payload) :
    (proceed s e x).1.missionType = s.missionType := by
  unfold proceed
  split
  · split <;> rfl
  all_goals rfl

theorem step_missionType (blank : s.status = none → s.missionType = none) (e : Event) (x : Payload) :
    (step s e x).1.missionType = if s.status = none then created? x else s.missionType := by
  have kept (later : x.kind ≠ .missionCreated) :
      s.missionType = if s.status = none then created? x else s.missionType := by
    refine kept_of_blank blank ?_
    cases x with
    | missionCreated p => exact absurd rfl later
    | _ => rfl
  rcases step_cases s e x with ⟨p, rfl, created⟩ | ⟨later, -, refused⟩ | ⟨later, -, made⟩
  · rw [created]
    unfold create
    cases known : s.status <;> simp [named, known, created?]
  · rw [refused]
    exact kept later
  · rw [made]
    exact (proceed_missionType (named s e) e x).trans (kept later)

theorem step_blank (blank : s.status = none → s.missionType = none) (own : x.kind ∈ kinds) (e : Event)
    (unknown : (step s e x).1.status = none) : (step s e x).1.missionType = none := by
  obtain ⟨unknown, phase⟩ := (step_unknown own).mp unknown
  rw [step_missionType blank, if_pos unknown]
  cases x with
  | missionCreated p => cases phase
  | _ => rfl

theorem after_shownType? {events : List (Event × Payload)} (own : ∀ y ∈ events, y.2.kind ∈ kinds) :
    shownType? (projection.after {} events) =
      (events.find? fun y => y.2.kind ≠ .phaseEntered).map fun y => created? y.2 :=
  (projection.after_first shownType? created? (fun x => x.kind ≠ .phaseEntered)
    (fun _ e x (blank : _ = none → _ = none) (own : x.kind ∈ kinds) =>
      ⟨step_blank blank own e, set_with_status (step_unknown own) (step_missionType blank e x)⟩)
    (fun _ => rfl) own).trans Option.none_or

end Lifecycle

namespace MissionAudit

variable {s : State} {e : Event} {x : Payload}

def trigger? : Payload → Option String
  | .missionAuditRequested p => p.triggerMode
  | _ => none

/-- What triggered an audit, once it counts as requested. -/
def shownTrigger? (s : State) : Option (Option String) := if s.requested then some s.triggerMode else none

/-- An audit that does not count as requested yet has not ended, and nothing triggered it. -/
def State.Blank (s : State) : Prop :=
  s.requested = false → s.status.isTerminal = false ∧ s.triggerMode = none

theorem commence_kept (s : State) (p : Payload.MissionAuditStarted) :
    (commence s p).1.requested = s.requested ∧ (commence s p).1.triggerMode = s.triggerMode := by
  unfold commence
  split <;> exact ⟨rfl, rfl⟩

theorem ask_kept (s : State) (e : Event) (p : Payload.MissionAuditDecisionRequested) :
    (ask s e p).1.requested = s.requested ∧ (ask s e p).1.triggerMode = s.triggerMode := by
  unfold ask
  split <;> exact ⟨rfl, rfl⟩

theorem proceed_requested (blank : s.requested = false → s.triggerMode = none) (own : x.kind ∈ kinds)
    (e : Event) :
    (proceed s e x).1.requested = true ∧
      (proceed s e x).1.triggerMode = if s.requested = false then trigger? x else s.triggerMode := by
  have kept (untriggered : trigger? x = none) :
      s.triggerMode = if s.requested = false then trigger? x else s.triggerMode :=
    kept_of_blank blank untriggered
  cases x with
  | missionAuditRequested p =>
    unfold proceed request
    cases requested : s.requested <;> simp [trigger?, requested]
  | missionAuditStarted p =>
    obtain ⟨requested, trigger⟩ := commence_kept { s with requested := true } p
    exact ⟨requested, trigger.trans (kept rfl)⟩
  | missionAuditDecisionRequested p =>
    obtain ⟨requested, trigger⟩ := ask_kept { s with requested := true } e p
    exact ⟨requested, trigger.trans (kept rfl)⟩
  | missionAuditCompleted p | missionAuditFailed p => exact ⟨rfl, kept rfl⟩
  | _ => exact absurd own (by rw [Payload.kind]; decide)

theorem step_requested (blank : s.Blank) (own : x.kind ∈ kinds) (e : Event) :
    (step s e x).1.requested = true ∧
      (step s e x).1.triggerMode = if s.requested = false then trigger? x else s.triggerMode := by
  cases ended : s.status.isTerminal with
  | true =>
    -- Whatever ends an audit also makes it count as requested.
    have requested : s.requested = true := by
      by_contra unrequested
      have unended := (blank (Bool.eq_false_iff.mpr unrequested)).1
      rw [ended] at unended
      cases unended
    rw [(step_ended ended e x).1, requested]
    exact ⟨rfl, rfl⟩
  | false =>
    rw [step_unended ended]
    exact proceed_requested (fun unrequested => (blank unrequested).2) own e

theorem step_blank (blank : s.Blank) (own : x.kind ∈ kinds) (e : Event) : (step s e x).1.Blank := by
  intro unrequested
  rw [(step_requested blank own e).1] at unrequested
  cases unrequested

theorem step_shownTrigger? (blank : s.Blank) (own : x.kind ∈ kinds) (e : Event) :
    shownTrigger? (step s e x).1 = (shownTrigger? s).or (some (trigger? x)) := by
  obtain ⟨requested, trigger⟩ := step_requested blank own e
  rw [shownTrigger?, shownTrigger?, requested, trigger]
  cases s.requested <;> rfl

theorem after_shownTrigger? {events : List (Event × Payload)} (own : ∀ y ∈ events, y.2.kind ∈ kinds) :
    shownTrigger? (projection.after {} events) = events.head?.map fun y => trigger? y.2 := by
  have blank : State.Blank {} := fun _ => ⟨rfl, rfl⟩
  have first := projection.after_first shownTrigger? trigger? (fun _ => True)
    (fun _ e _ blank own => ⟨step_blank blank own e, step_shownTrigger? blank own e⟩) blank own
  rw [first]
  cases events <;> rfl

theorem proceed_isTerminal (unended : s.status.isTerminal = false) (e : Event) (x : Payload) :
    (proceed s e x).1.status.isTerminal = endsAudit x.kind := by
  cases x with
  | missionAuditRequested p =>
    unfold proceed request
    dsimp only
    split <;> exact unended
  | missionAuditStarted p =>
    unfold proceed commence
    dsimp only
    split
    · rfl
    · exact unended
  | missionAuditDecisionRequested p =>
    unfold proceed ask
    dsimp only
    split
    · exact unended
    · rfl
  | missionAuditCompleted p | missionAuditFailed p => rfl
  | _ => exact unended

theorem step_isTerminal (s : State) (e : Event) (x : Payload) :
    (step s e x).1.status.isTerminal = (s.status.isTerminal || endsAudit x.kind) := by
  cases ended : s.status.isTerminal with
  | true =>
    rw [(step_ended ended e x).1, ended]
    rfl
  | false =>
    rw [step_unended ended]
    exact proceed_isTerminal ended e x

end MissionAudit

namespace MissionNext

variable {s : State} {e : Event} {x : Payload}

def begun? : Payload → Option String
  | .missionRunStarted p => some p.missionType
  | _ => none

/-- The mission type of a run, from its status on. -/
def shownType? (s : State) : Option (Option String) := s.status.map fun _ => s.missionType

/-- A run without a status has no type yet, and waits for no decision. -/
def State.Blank (s : State) : Prop := s.status = none → s.missionType = none ∧ s.pending = []

theorem answer_missionType (s : State) (p : Payload.DecisionInputAnswered) :
    (answer s p).1.missionType = s.missionType := by
  by_cases known : p.decisionId ∈ s.asked
  · obtain ⟨found, answered, -⟩ := answer_known known
    rw [answered]
    rfl
  · rw [answer_unknown known]

theorem known_of_asked (blank : s.Blank) {id : String} (known : id ∈ s.asked) : s.status ≠ none := by
  intro unknown
  rw [State.asked, (blank unknown).2] at known
  cases known

theorem proceed_unknown (blank : s.Blank) (e : Event) (x : Payload) :
    (proceed s e x).1.status = none ↔ s.status = none ∧ x.kind = .decisionInputAnswered := by
  cases x with
  | missionRunStarted p =>
    unfold proceed beginRun
    dsimp only
    cases known : s.status <;> simp [settle, Payload.kind, known]
  | nextStepAutoCompleted p =>
    unfold proceed completeStep
    dsimp only
    split <;> simp [settle, Payload.kind]
  | decisionInputRequested p =>
    by_cases known : p.decisionId ∈ s.asked
    · have waits := known_of_asked blank known
      simp [proceed, ask_known known, waits]
    · simp [proceed, ask_new known, settle, Payload.kind]
  | decisionInputAnswered p =>
    by_cases known : p.decisionId ∈ s.asked
    · have waits := known_of_asked blank known
      obtain ⟨found, answered, -⟩ := answer_known known
      simp [proceed, answered, waits, settle]
    · simp [proceed, answer_unknown known, Payload.kind]
  | _ => simp [proceed, settle, Payload.kind]

theorem proceed_missionType (blank : s.Blank) (e : Event) (x : Payload) :
    (proceed s e x).1.missionType = if s.status = none then begun? x else s.missionType := by
  have kept (later : begun? x = none) :
      s.missionType = if s.status = none then begun? x else s.missionType :=
    kept_of_blank (fun unknown => (blank unknown).1) later
  cases x with
  | missionRunStarted p =>
    unfold proceed beginRun
    cases known : s.status <;> simp [settle, begun?]
  | nextStepAutoCompleted p =>
    refine Eq.trans ?_ (kept rfl)
    unfold proceed completeStep
    dsimp only
    split <;> rfl
  | decisionInputRequested p =>
    refine Eq.trans ?_ (kept rfl)
    unfold proceed ask
    dsimp only
    split <;> rfl
  | decisionInputAnswered p => exact (answer_missionType s p).trans (kept rfl)
  | _ => exact kept rfl

theorem step_spec (blank : s.Blank) (e : Event) (x : Payload) :
    ((step s e x).1.status = none ↔ s.status = none ∧ x.kind = .decisionInputAnswered) ∧
      (step s e x).1.missionType = if s.status = none then begun? x else s.missionType := by
  have blank' : (named s e).Blank := blank
  rcases step_cases s e x with ⟨ended, refused⟩ | ⟨-, made⟩
  · rw [refused]
    simp [named, ended]
  · rw [made]
    exact ⟨proceed_unknown blank' e x, proceed_missionType blank' e x⟩

theorem step_blank (blank : s.Blank) (coherent : s.Coherent) (e : Event) (x : Payload) :
    (step s e x).1.Blank := by
  intro unknown
  obtain ⟨status, type⟩ := step_spec blank e x
  obtain ⟨wasUnknown, answered⟩ := status.mp unknown
  have pending := ((coherent.step e x).unbegun unknown).2.2.1
  rw [type, if_pos wasUnknown]
  cases x with
  | missionRunStarted p => cases answered
  | _ => exact ⟨rfl, pending⟩

theorem after_shownType? (events : List (Event × Payload)) :
    shownType? (projection.after {} events) =
      (events.find? fun y => y.2.kind ≠ .decisionInputAnswered).map fun y => begun? y.2 := by
  have start : State.Coherent {} ∧ State.Blank {} := ⟨coherent_start, fun _ => ⟨rfl, rfl⟩⟩
  refine (projection.after_first shownType? begun? (fun x => x.kind ≠ .decisionInputAnswered)
    (fun s e x (holds : s.Coherent ∧ s.Blank) (_ : True) => ?_) start fun _ _ => trivial).trans
      Option.none_or
  obtain ⟨coherent, blank⟩ := holds
  obtain ⟨status, type⟩ := step_spec blank e x
  exact ⟨⟨coherent.step e x, step_blank blank coherent e x⟩, set_with_status status type⟩

theorem proceed_completed (unended : s.status ≠ some .completed) (e : Event) (x : Payload) :
    (proceed s e x).1.status = some .completed ↔ x.kind = .missionRunCompleted := by
  by_cases ends : x.kind = .missionRunCompleted
  · cases x with
    | missionRunCompleted p => exact ⟨fun _ => rfl, fun _ => rfl⟩
    | _ => cases ends
  · exact iff_of_false (tallies_proceed unended e ends).unended ends

theorem step_completed (s : State) (e : Event) (x : Payload) :
    decide ((step s e x).1.status = some .completed) =
      (decide (s.status = some .completed) || decide (x.kind = .missionRunCompleted)) := by
  rcases step_cases s e x with ⟨ended, refused⟩ | ⟨unended, made⟩
  · rw [refused, decide_eq_true ended, Bool.true_or]
    exact decide_eq_true ended
  · rw [made, decide_eq_false unended, Bool.false_or]
    exact decide_eq_decide.mpr (proceed_completed (s := named s e) unended e x)

end MissionNext

namespace Connector

variable {s : State} {e : Event} {x : Payload} {k : String}

def provider? : Payload → Option String
  | .connectorProvisioned p => some p.provider
  | _ => none

def shownProvider? (k : String) (s : State) : Option (Option String) :=
  (connection? s k).map (·.provider)

theorem proceed_provider (c : Connection) (x : Payload) : (c.proceed x).1.provider = c.provider := by
  cases x with
  | connectorHealthChecked p =>
    unfold Connection.proceed Connection.checkHealth
    dsimp only
    split <;> rfl
  | _ => rfl

theorem change_provider (s : State) (e : Event) (k : String) (x : Payload) :
    shownProvider? k (change s e k x).1 = some (met s e k).provider := by
  rw [shownProvider?, change_met]
  cases (met s e k).refusal? e x with
  | none => exact congrArg some (proceed_provider (met s e k) x)
  | some f => rfl

theorem met_provider (s : State) (e : Event) (k : String) :
    some (met s e k).provider = (shownProvider? k s).or (some none) := by
  unfold met shownProvider?
  cases connection? s k <;> rfl

theorem step_shownProvider? (s : State) (e : Event) (x : Payload) (named : entity? x = some k) :
    shownProvider? k (step s e x).1 = (shownProvider? k s).or (some (provider? x)) := by
  have changed {k : String} (unprovided : provider? x = none) :
      shownProvider? k (change s e k x).1 = (shownProvider? k s).or (some (provider? x)) := by
    rw [change_provider, met_provider, unprovided]
  cases x with
  | connectorProvisioned p =>
    cases named
    unfold shownProvider?
    cases known : connection? s p.connectorId with
    | some c =>
      rw [step, provision_known known]
      rfl
    | none =>
      rw [step, provision_unknown known]
      rfl
  | connectorHealthChecked p => cases named; exact changed rfl
  | connectorDegraded p => cases named; exact changed rfl
  | connectorRecovered p => cases named; exact changed rfl
  | connectorRevoked p => cases named; exact changed rfl
  | connectorDecommissioned p => cases named; exact changed rfl
  | _ => cases named

theorem after_shownProvider? (k : String) (events : List (Event × Payload)) :
    shownProvider? k (projection.after {} events) =
      (connectors.own k events).head?.map fun y => provider? y.2 :=
  connectors.first_shown (·.provider) provider? step_shownProvider? [] events

end Connector

namespace DecisionPoint

variable {s : State} {e : Event} {x : Payload} {k : String}

def options : Payload → List String
  | .decisionPointOpened p => p.options
  | _ => []

def shownOptions? (k : String) (s : State) : Option (List String) := (decision? s k).map (·.options)

theorem met_options (s : State) (k : String) :
    some (met s k).options = (shownOptions? k s).or (some []) := by
  unfold met shownOptions?
  cases decision? s k <;> rfl

theorem step_shownOptions? (s : State) (e : Event) (x : Payload) (named : decisionId? x = some k) :
    shownOptions? k (step s e x).1 = (shownOptions? k s).or (some (options x)) := by
  have changed {k : String} {f : Decision → Decision × List Finding}
      (leads : ∀ d : Decision, d.Leads (f d).1) :
      shownOptions? k (change s e k f).1 = (shownOptions? k s).or (some []) := by
    rw [← met_options, shownOptions?, (change_met s e k f).1, Option.map_some, (leads _).options]
  cases x with
  | decisionPointOpened p =>
    cases named
    unfold shownOptions?
    cases known : decision? s p.decisionId with
    | some d =>
      rw [step, (openDecision_known known).1]
      rfl
    | none =>
      rw [step, openDecision_new known, decision?, Index.find?_insert_self]
      rfl
  | decisionPointDiscussing p => cases named; exact changed fun d => d.leads_discuss p
  | decisionPointResolved p => cases named; exact changed fun d => d.leads_resolve p
  | decisionPointOverridden p => cases named; exact changed fun d => d.leads_override p
  | _ => cases named

theorem after_shownOptions? (k : String) (events : List (Event × Payload)) :
    shownOptions? k (projection.after {} events) =
      (decisions.own k events).head?.map fun y => options y.2 :=
  decisions.first_shown (·.options) options step_shownOptions? [] events

end DecisionPoint

end EventLedger
