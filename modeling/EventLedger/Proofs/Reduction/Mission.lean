import EventLedger.Proofs.Order.Canonical
import EventLedger.Proofs.Reduction.Sifting
import Mathlib.Data.List.TakeWhile

/-! What an event does to a mission: to the phases recorded of it, and to what is known of its status.
Main statement: the status is unknown exactly as long as nothing but phases has been folded. -/

namespace EventLedger.Lifecycle

variable {s : State} {e : Event} {x : Payload} {events : List (Event × Payload)}

/-- A mission is known by the aggregate of its first event. -/
def named (s : State) (e : Event) : State :=
  { s with missionId := s.missionId.or (some e.aggregateId) }

/-- All that an event can do. -/
theorem step_cases (s : State) (e : Event) (x : Payload) :
    (∃ p, x = .missionCreated p ∧ step s e x = create (named s e) p) ∨
    (x.kind ≠ .missionCreated ∧ isTerminal s = true ∧ step s e x = (named s e, admission s e)) ∨
    (x.kind ≠ .missionCreated ∧ isTerminal s = false ∧
      step s e x = ((proceed (named s e) e x).1, admission s e ++ (proceed (named s e) e x).2)) := by
  by_cases creation : ∃ p, x = .missionCreated p
  · obtain ⟨p, rfl⟩ := creation
    exact .inl ⟨p, rfl, rfl⟩
  · right
    have kind : x.kind ≠ .missionCreated := by
      intro same
      cases x with
      | missionCreated p => exact creation ⟨p, rfl⟩
      | _ => cases same
    have here : step s e x = if isTerminal s then (named s e, admission s e)
        else ((proceed (named s e) e x).1, admission s e ++ (proceed (named s e) e x).2) := by
      unfold step
      dsimp only
      split
      · rename_i p
        exact absurd ⟨p, rfl⟩ creation
      · rfl
    rw [here]
    cases ended : isTerminal s with
    | true => exact .inl ⟨kind, rfl, if_pos rfl⟩
    | false => exact .inr ⟨kind, rfl, if_neg Bool.false_ne_true⟩

/-- Events that end a mission, whatever its status is. -/
def endsMission : Kind → Bool
  | .missionCompleted | .missionCancelled => true
  | _ => false

def phase? : Event × Payload → Option PhaseRecord
  | (e, .phaseEntered p) => some ⟨p.phase, e.id, e.lamportClock⟩
  | _ => none

theorem create_isTerminal (s : State) (p : Payload.MissionCreated) :
    isTerminal (create s p).1 = isTerminal s := by
  unfold create
  split
  · rfl
  · rename_i unknown
    cases known : s.status with
    | none => simp [isTerminal, known, MissionStatus.isTerminal]
    | some status => simp [known] at unknown

theorem proceed_isTerminal (unended : isTerminal s = false) (e : Event) (x : Payload) :
    isTerminal (proceed s e x).1 = endsMission x.kind := by
  cases x with
  | missionStarted p =>
    unfold proceed
    dsimp only
    split
    · exact unended
    · rfl
  | missionPaused p | missionResumed p | missionCompleted p | missionCancelled p => rfl
  | _ => exact unended

theorem step_isTerminal (s : State) (e : Event) (x : Payload) :
    isTerminal (step s e x).1 = (isTerminal s || endsMission x.kind) := by
  rcases step_cases s e x with ⟨p, rfl, created⟩ | ⟨-, ended, refused⟩ | ⟨-, unended, made⟩
  · rw [created, create_isTerminal]
    exact (Bool.or_false _).symm
  · rw [refused, ended, Bool.true_or]
    exact ended
  · rw [made, proceed_isTerminal (s := named s e) unended, unended, Bool.false_or]

theorem after_isTerminal (s : State) (events : List (Event × Payload)) :
    isTerminal (projection.after s events) =
      (isTerminal s || events.any fun y => endsMission y.2.kind) :=
  projection.after_raised isTerminal (fun x => endsMission x.kind) step_isTerminal s events

theorem create_phaseHistory (s : State) (p : Payload.MissionCreated) :
    (create s p).1.phaseHistory = s.phaseHistory := by
  unfold create
  split <;> rfl

theorem proceed_phaseHistory (s : State) (e : Event) (x : Payload) :
    (proceed s e x).1.phaseHistory = s.phaseHistory ++ (phase? (e, x)).toList := by
  cases x with
  | missionStarted p =>
    unfold proceed
    dsimp only
    split <;> exact (List.append_nil _).symm
  | phaseEntered p => rfl
  | _ => exact (List.append_nil _).symm

theorem step_phaseHistory (s : State) (e : Event) (x : Payload) :
    (step s e x).1.phaseHistory =
      s.phaseHistory ++ if isTerminal s then [] else (phase? (e, x)).toList := by
  rcases step_cases s e x with ⟨p, rfl, created⟩ | ⟨-, ended, refused⟩ | ⟨-, unended, made⟩
  · rw [created, create_phaseHistory]
    split <;> exact (List.append_nil _).symm
  · rw [refused, if_pos ended]
    exact (List.append_nil _).symm
  · rw [made, if_neg (Bool.eq_false_iff.mp unended)]
    exact proceed_phaseHistory (named s e) e x

theorem phase?_eq_none (ends : endsMission x.kind = true) (e : Event) : phase? (e, x) = none := by
  cases x with
  | phaseEntered p => cases ends
  | _ => rfl

/-- As long as no event ends the mission, each phase that is entered is recorded. -/
theorem after_phaseHistory (unended : isTerminal s = false)
    (ongoing : ∀ y ∈ events, endsMission y.2.kind = false) :
    (projection.after s events).phaseHistory = s.phaseHistory ++ events.filterMap phase? := by
  induction events generalizing s with
  | nil => exact (List.append_nil _).symm
  | cons y rest ih =>
    have recorded : (projection.step s y.1 y.2).1.phaseHistory =
        s.phaseHistory ++ (phase? y).toList := by
      have step := step_phaseHistory s y.1 y.2
      rwa [if_neg (Bool.eq_false_iff.mp unended)] at step
    have unended' : isTerminal (projection.step s y.1 y.2).1 = false := by
      have step := step_isTerminal s y.1 y.2
      rwa [unended, ongoing y List.mem_cons_self] at step
    rw [Projection.after_cons, ih unended' fun z member => ongoing z (List.mem_cons_of_mem y member),
      recorded, List.append_assoc, List.filterMap_cons]
    cases phase? y <;> rfl

theorem known_of_ended (ended : isTerminal s = true) : s.status ≠ none := by
  intro unknown
  rw [isTerminal, unknown] at ended
  cases ended

theorem step_of_ended (ended : isTerminal s = true) (e : Event) (x : Payload) :
    (step s e x).1 = named s e := by
  rcases step_cases s e x with ⟨p, rfl, created⟩ | ⟨-, -, refused⟩ | ⟨-, unended, -⟩
  · rw [created, create]
    split
    · rfl
    · rename_i unknown
      exact absurd (Option.not_isSome_iff_eq_none.mp unknown) (known_of_ended ended)
  · rw [refused]
  · rw [unended] at ended
    cases ended

/-- Nothing but its name is changed of a mission that has ended. -/
theorem after_ended {α : Type} (view : State → α) (unnamed : ∀ t e, view (named t e) = view t)
    (ended : isTerminal s = true) (events : List (Event × Payload)) :
    view (projection.after s events) = view s := by
  refine (projection.after_keeps
    (fun t => isTerminal t = true ∧ view t = view s) ?_ ⟨ended, rfl⟩ events).2
  rintro t e x ⟨still, same⟩
  have stepped : (projection.step t e x).1 = named t e := step_of_ended still e x
  rw [stepped]
  exact ⟨still, (unnamed t e).trans same⟩

/-- The events before the first that ends the mission, and the others. -/
theorem exists_first_ending (events : List (Event × Payload)) :
    ∃ front back, events = front ++ back ∧ (∀ y ∈ front, endsMission y.2.kind = false) ∧
      ∀ y ∈ back.head?, endsMission y.2.kind = true := by
  refine ⟨events.takeWhile fun y => !endsMission y.2.kind,
    events.dropWhile fun y => !endsMission y.2.kind, List.takeWhile_append_dropWhile.symm,
    fun y member => ?_, fun y first => ?_⟩
  · simpa using List.mem_takeWhile_imp member
  · have stopped := List.head?_dropWhile_not (fun y => !endsMission y.2.kind) events
    rw [Option.mem_def.mp first] at stopped
    simpa using stopped

/-- Phases are recorded while the mission has not ended. -/
theorem recorded_phases (events : List (Event × Payload)) :
    ∃ front back, events = front ++ back ∧
      (∀ before, before <+: front → isTerminal (projection.after {} before) = false) ∧
      (∀ y ∈ back.head?, isTerminal (projection.after {} (front ++ [y])) = true) ∧
      (projection.after {} events).phaseHistory = front.filterMap phase? := by
  obtain ⟨front, back, split, ongoing, ending⟩ := exists_first_ending events
  have unended (before : List (Event × Payload)) (early : before <+: front) :
      isTerminal (projection.after {} before) = false := by
    rw [after_isTerminal]
    exact List.any_eq_false.mpr fun y member =>
      Bool.eq_false_iff.mp (ongoing y (early.subset member))
  have phases : (projection.after {} front).phaseHistory = front.filterMap phase? :=
    after_phaseHistory rfl ongoing
  have ends (y : Event × Payload) (first : y ∈ back.head?) :
      isTerminal (projection.after {} (front ++ [y])) = true := by
    rw [Projection.after_append, after_isTerminal]
    simp [ending y first]
  refine ⟨front, back, split, unended, ends, ?_⟩
  rw [split, ← phases]
  cases back with
  | nil => rw [List.append_nil]
  | cons y rest =>
    -- The event that ends the mission enters no phase, and what follows it leaves no record.
    have last : (projection.after {} (front ++ [y])).phaseHistory =
        (projection.after {} front).phaseHistory := by
      have recorded := step_phaseHistory (projection.after {} front) y.1 y.2
      rw [phase?_eq_none (ending y rfl), Option.toList_none, ite_self, List.append_nil] at recorded
      exact (congrArg State.phaseHistory (projection.after_append {} front [y])).trans recorded
    have later : projection.after {} (front ++ y :: rest) =
        projection.after (projection.after {} (front ++ [y])) rest := by
      rw [List.append_cons, Projection.after_append]
    rw [later, after_ended State.phaseHistory (fun _ _ => rfl) (ends y rfl), last]

theorem create_currentPhase (s : State) (p : Payload.MissionCreated) :
    (create s p).1.currentPhase = s.currentPhase := by
  unfold create
  split <;> rfl

theorem proceed_currentPhase (s : State) (e : Event) (x : Payload) :
    (proceed s e x).1.currentPhase = ((phase? (e, x)).map (·.phase)).or s.currentPhase := by
  cases x with
  | missionStarted p =>
    unfold proceed
    dsimp only
    split <;> rfl
  | _ => rfl

theorem step_currentPhase (s : State) (e : Event) (x : Payload) :
    (step s e x).1.currentPhase =
      if isTerminal s then s.currentPhase
      else ((phase? (e, x)).map (·.phase)).or s.currentPhase := by
  rcases step_cases s e x with ⟨p, rfl, created⟩ | ⟨-, ended, refused⟩ | ⟨-, unended, made⟩
  · rw [created, create_currentPhase]
    exact (ite_self _).symm
  · rw [refused, if_pos ended]
    rfl
  · rw [made, if_neg (Bool.eq_false_iff.mp unended)]
    exact proceed_currentPhase (named s e) e x

/-- The current phase is the last one that was recorded. -/
theorem currentPhase_eq (events : List (Event × Payload)) :
    (projection.after {} events).currentPhase =
      (projection.after {} events).phaseHistory.getLast?.map (·.phase) := by
  refine projection.after_keeps
    (fun t => t.currentPhase = t.phaseHistory.getLast?.map (·.phase)) ?_ rfl events
  intro t e x same
  have stepped : (projection.step t e x).1 = (step t e x).1 := rfl
  rw [stepped, step_phaseHistory, step_currentPhase]
  split
  · rw [List.append_nil]
    exact same
  · cases phase? (e, x) with
    | none => rwa [Option.toList_none, List.append_nil]
    | some r => rw [Option.toList_some, List.getLast?_concat]; rfl

theorem proceed_unknown (own : x.kind ∈ kinds) (later : x.kind ≠ .missionCreated) :
    (proceed s e x).1.status = none ↔ s.status = none ∧ x.kind = .phaseEntered := by
  cases x with
  | missionCreated p => exact absurd rfl later
  | missionStarted p =>
    unfold proceed
    dsimp only
    split
    · rename_i started
      constructor
      · intro unknown
        rw [unknown] at started
        simp at started
      · exact fun phase => nomatch phase.2
    · exact ⟨nofun, fun phase => nomatch phase.2⟩
  | phaseEntered p => exact (and_iff_left rfl).symm
  | missionPaused p | missionResumed p | missionCompleted p | missionCancelled p =>
    exact ⟨nofun, fun phase => nomatch phase.2⟩
  | _ => exact absurd own (by rw [Payload.kind]; decide)

/-- Of the events of a mission, all but a phase make its status known. -/
theorem step_unknown (own : x.kind ∈ kinds) :
    (step s e x).1.status = none ↔ s.status = none ∧ x.kind = .phaseEntered := by
  rcases step_cases s e x with ⟨p, rfl, created⟩ | ⟨later, ended, refused⟩ | ⟨later, -, made⟩
  · rw [created]
    constructor
    · intro unknown
      cases known : s.status <;> simp [create, named, known] at unknown
    · exact fun phase => nomatch phase.2
  · have known : s.status ≠ none := known_of_ended ended
    rw [refused]
    exact ⟨fun unknown => absurd unknown known, fun phase => absurd phase.1 known⟩
  · rw [made]
    exact proceed_unknown (s := named s e) own later

theorem after_unknown (own : ∀ y ∈ events, y.2.kind ∈ kinds) :
    (projection.after s events).status = none ↔
      s.status = none ∧ ∀ y ∈ events, y.2.kind = .phaseEntered := by
  induction events generalizing s with
  | nil => exact (and_iff_left (List.forall_mem_nil _)).symm
  | cons y rest ih =>
    have first : (projection.step s y.1 y.2).1.status = none ↔
        s.status = none ∧ y.2.kind = .phaseEntered := step_unknown (own y List.mem_cons_self)
    rw [Projection.after_cons, ih fun z member => own z (List.mem_cons_of_mem y member), first,
      List.forall_mem_cons, and_assoc]

theorem relevant_own (log : List Event) :
    ∀ y ∈ projection.relevant (Event.canonicalize log), y.2.kind ∈ kinds :=
  fun _ member => (projection.mem_relevant.mp member).2.2

/-- The status of a mission is unknown exactly as long as nothing but phases has been folded. -/
theorem status_unknown_iff_phases (log : List Event) :
    let folded := projection.relevant (Event.canonicalize log)
    let s := projection.reduce log
    s.eventCount = folded.length ∧
      (s.state.status = none ↔ ∀ y ∈ folded, y.2.kind = .phaseEntered) := by
  intro folded s
  have state : s.state = projection.after {} folded := projection.reduce_state log
  rw [state, after_unknown (relevant_own log)]
  exact ⟨rfl, and_iff_right rfl⟩

/-- A phase that comes first is counted and recorded, and the status stays unknown. -/
theorem first_phase_leaves_unknown :
    let log := [Event.plain "e1" 1 "PhaseEntered" (.object [("phase", .string "specify")])]
    let s := projection.reduce log
    s.eventCount = 1 ∧ s.state.currentPhase = some "specify" ∧ s.state.status = none ∧
      ¬ (s.state.status = none ↔ s.eventCount = 0) := by
  intro log s
  have canonical : Event.canonicalize log = log :=
    Event.canonicalize_of_ascending (List.pairwise_singleton _ _) (by decide)
  have count : s.eventCount = 1 := by
    change (projection.relevant (Event.canonicalize log)).length = 1
    rw [canonical]
    decide +kernel
  have state : s.state.currentPhase = some "specify" ∧ s.state.status = none := by
    dsimp only [s]
    rw [projection.reduce_state, canonical]
    decide +kernel
  refine ⟨count, state.1, state.2, fun claimed => ?_⟩
  have uncounted := claimed.mp state.2
  omega

end EventLedger.Lifecycle
