import EventLedger.Proofs.Reduction.Accounting
import EventLedger.Proofs.Reduction.Mission

/-! The courses that a mission may take. Main statement: a fold finds nothing odd exactly about these,
and a mission then stands where its course leads. -/

namespace EventLedger.Lifecycle

/-- The moves of a mission that has been created and has not ended. -/
inductive Move : MissionStatus → Kind → MissionStatus → Prop
  | start : Move .created .missionStarted .active
  | pause : Move .active .missionPaused .paused
  | resume : Move .paused .missionResumed .active
  | complete : Move .active .missionCompleted .completed
  | cancel {status : MissionStatus} (unended : status.isTerminal = false) :
      Move status .missionCancelled .cancelled
  | enter {status : MissionStatus} (unended : status.isTerminal = false) :
      Move status .phaseEntered status

inductive Moves : MissionStatus → List Kind → MissionStatus → Prop
  | done {status : MissionStatus} : Moves status [] status
  | move {status next last : MissionStatus} {k : Kind} {rest : List Kind} :
      Move status k next → Moves next rest last → Moves status (k :: rest) last

/-- What may happen to a mission, and the status that it leads to. -/
inductive Course : List Kind → Option MissionStatus → Prop
  | unknown : Course [] none
  | created {later : List Kind} {last : MissionStatus} :
      Moves .created later last → Course (.missionCreated :: later) (some last)

variable {s : State} {e : Event} {x : Payload} {status next : MissionStatus}
  {events : List (Event × Payload)}

theorem isTerminal_of_status (known : s.status = some status) : isTerminal s = status.isTerminal := by
  unfold isTerminal
  rw [known]
  rfl

theorem admission_unended (known : s.status = some status) (unended : status.isTerminal = false)
    (e : Event) : admission s e = [] := by
  unfold admission
  rw [known]
  exact if_neg (by rw [unended]; exact Bool.false_ne_true)

theorem unexpectedMove_eq_nil (known : s.status = some status) {allowed : List MissionStatus}
    {target : MissionStatus} : unexpectedMove s allowed target = [] ↔ status ∈ allowed := by
  unfold unexpectedMove
  rw [known]
  dsimp only
  split <;> simp_all

theorem proceed_of_move (known : s.status = some status) (move : Move status x.kind next) :
    (proceed s e x).2 = [] ∧ (proceed s e x).1.status = some next := by
  cases x with
  | missionStarted p =>
    cases move
    simp [proceed, known]
  | phaseEntered p =>
    cases move
    exact ⟨rfl, known⟩
  | missionPaused p | missionResumed p | missionCompleted p =>
    cases move
    exact ⟨(unexpectedMove_eq_nil known).mpr (List.mem_singleton_self _), rfl⟩
  | missionCancelled p =>
    cases move with
    | cancel unended =>
      refine ⟨(unexpectedMove_eq_nil known).mpr ?_, rfl⟩
      cases status with
      | created | active | paused => decide
      | completed | cancelled => cases unended
  | _ => cases move

theorem move_of_proceed (known : s.status = some status) (unended : status.isTerminal = false)
    (own : x.kind ∈ kinds) (later : x.kind ≠ .missionCreated) (quiet : (proceed s e x).2 = []) :
    ∃ next, Move status x.kind next := by
  -- The events that allow one status only are quiet in that one.
  have only {one target : MissionStatus} (nothing : unexpectedMove s [one] target = []) :
      status = one := List.mem_singleton.mp ((unexpectedMove_eq_nil known).mp nothing)
  cases x with
  | missionCreated p => exact absurd rfl later
  | missionStarted p =>
    cases status with
    | created => exact ⟨_, .start⟩
    | active | paused => simp [proceed, known] at quiet
    | completed | cancelled => cases unended
  | phaseEntered p => exact ⟨_, .enter unended⟩
  | missionPaused p =>
    obtain rfl := only quiet
    exact ⟨_, .pause⟩
  | missionResumed p =>
    obtain rfl := only quiet
    exact ⟨_, .resume⟩
  | missionCompleted p =>
    obtain rfl := only quiet
    exact ⟨_, .complete⟩
  | missionCancelled p => exact ⟨_, .cancel unended⟩
  | _ => exact absurd own (by rw [Payload.kind]; decide)

theorem Move.unended {k : Kind} (move : Move status k next) : status.isTerminal = false := by
  cases move with
  | cancel unended => exact unended
  | enter unended => exact unended
  | _ => rfl

theorem Move.later {k : Kind} (move : Move status k next) : k ≠ .missionCreated := by
  cases move <;> exact nofun

theorem step_of_move (known : s.status = some status) (move : Move status x.kind next) :
    (step s e x).2 = [] ∧ (step s e x).1.status = some next := by
  have unended := move.unended
  rcases step_cases s e x with ⟨p, rfl, -⟩ | ⟨-, ended, -⟩ | ⟨-, -, made⟩
  · exact absurd rfl move.later
  · rw [isTerminal_of_status known, unended] at ended
    cases ended
  · rw [made, admission_unended known unended]
    exact proceed_of_move (s := named s e) known move

theorem move_of_quiet (known : s.status = some status) (own : x.kind ∈ kinds)
    (quiet : (step s e x).2 = []) : ∃ next, Move status x.kind next := by
  rcases step_cases s e x with ⟨p, rfl, created⟩ | ⟨later, ended, refused⟩ | ⟨later, unended, made⟩
  · simp [created, create, named, known] at quiet
  · rw [isTerminal_of_status known] at ended
    simp [refused, admission, known, ended] at quiet
  · rw [isTerminal_of_status known] at unended
    rw [made, admission_unended known unended, List.nil_append] at quiet
    exact move_of_proceed (s := named s e) known unended own later quiet

theorem findings_of_moves {last : MissionStatus} (known : s.status = some status)
    (moves : Moves status (events.map (·.2.kind)) last) :
    (projection.findings s events).flatten = [] ∧ (projection.after s events).status = some last := by
  induction events generalizing s status with
  | nil =>
    cases moves
    exact ⟨rfl, known⟩
  | cons y rest ih =>
    cases moves with
    | move first others =>
      obtain ⟨quiet, reached⟩ := step_of_move (e := y.1) known first
      obtain ⟨found, after⟩ := ih reached others
      exact ⟨projection.findings_cons_quiet.mpr ⟨quiet, found⟩, after⟩

theorem moves_of_quiet (known : s.status = some status) (own : ∀ y ∈ events, y.2.kind ∈ kinds)
    (quiet : (projection.findings s events).flatten = []) :
    ∃ last, Moves status (events.map (·.2.kind)) last := by
  induction events generalizing s status with
  | nil => exact ⟨status, .done⟩
  | cons y rest ih =>
    obtain ⟨now, later⟩ := projection.findings_cons_quiet.mp quiet
    obtain ⟨next, move⟩ := move_of_quiet known (own y List.mem_cons_self) now
    have reached := (step_of_move (e := y.1) known move).2
    obtain ⟨last, moves⟩ := ih reached (fun z member => own z (List.mem_cons_of_mem y member)) later
    exact ⟨last, .move move moves⟩

theorem step_creation (creation : x.kind = .missionCreated) (e : Event) :
    (step {} e x).2 = [] ∧ (step {} e x).1.status = some .created := by
  cases x with
  | missionCreated p => exact ⟨rfl, rfl⟩
  | _ => cases creation

theorem creation_of_quiet (quiet : (step {} e x).2 = []) : x.kind = .missionCreated := by
  rcases step_cases {} e x with ⟨p, rfl, -⟩ | ⟨-, ended, -⟩ | ⟨-, -, made⟩
  · rfl
  · cases ended
  · rw [made] at quiet
    exact absurd quiet (List.append_ne_nil_of_left_ne_nil (List.cons_ne_nil _ _) _)

theorem course_cons_iff {k : Kind} {later : List Kind} {reached : Option MissionStatus} :
    Course (k :: later) reached ↔
      k = .missionCreated ∧ ∃ last, Moves .created later last ∧ reached = some last := by
  constructor
  · intro course
    cases course with
    | created moves => exact ⟨rfl, _, moves, rfl⟩
  · rintro ⟨rfl, last, moves, rfl⟩
    exact .created moves

/-- A fold finds nothing odd along a course, and ends where it leads. -/
theorem findings_of_course {reached : Option MissionStatus}
    (course : Course (events.map (·.2.kind)) reached) :
    (projection.findings {} events).flatten = [] ∧
      (projection.after {} events).status = reached := by
  cases events with
  | nil =>
    cases course
    exact ⟨rfl, rfl⟩
  | cons y rest =>
    obtain ⟨creation, last, moves, rfl⟩ := course_cons_iff.mp course
    obtain ⟨quiet, created⟩ := step_creation creation y.1
    obtain ⟨found, after⟩ := findings_of_moves created moves
    exact ⟨projection.findings_cons_quiet.mpr ⟨quiet, found⟩, after⟩

theorem course_of_quiet (own : ∀ y ∈ events, y.2.kind ∈ kinds)
    (quiet : (projection.findings {} events).flatten = []) :
    ∃ reached, Course (events.map (·.2.kind)) reached := by
  cases events with
  | nil => exact ⟨none, .unknown⟩
  | cons y rest =>
    obtain ⟨now, later⟩ := projection.findings_cons_quiet.mp quiet
    have creation := creation_of_quiet now
    have created := (step_creation creation y.1).2
    obtain ⟨last, moves⟩ :=
      moves_of_quiet created (fun z member => own z (List.mem_cons_of_mem y member)) later
    exact ⟨some last, course_cons_iff.mpr ⟨creation, last, moves, rfl⟩⟩

/-- The events of the kinds of a mission whose payloads can be read are folded, in canonical order. A
    fold finds nothing odd exactly about the courses that a mission may take, and the mission then
    stands where its course leads. Whatever is odd, the phases recorded are those entered before the
    mission ended, and the last of them is the current one. -/
theorem quiet_iff_course (log : List Event) :
    let canonical := Event.canonicalize log
    let folded := projection.relevant canonical
    let s := projection.reduce log
    (folded.map (·.1)).Sublist canonical ∧
      (∀ e x, (e, x) ∈ folded ↔ e ∈ canonical ∧ e.decoded? = some x ∧ x.kind ∈ kinds) ∧
      ((∀ a ∈ s.anomalies, a.kind.IsScreened) ↔ ∃ status, Course (folded.map (·.2.kind)) status) ∧
      (∀ status, Course (folded.map (·.2.kind)) status → s.state.status = status) ∧
      (∃ front back, folded = front ++ back ∧
        (∀ before, before <+: front → isTerminal (projection.after {} before) = false) ∧
        (∀ y ∈ back.head?, isTerminal (projection.after {} (front ++ [y])) = true) ∧
        s.state.phaseHistory = front.filterMap phase?) ∧
      s.state.currentPhase = s.state.phaseHistory.getLast?.map (·.phase) := by
  intro canonical folded s
  have state : s.state = projection.after {} folded := projection.reduce_state log
  have quiet : (∀ a ∈ s.anomalies, a.kind.IsScreened) ↔
      (projection.findings {} folded).flatten = [] := Domain.screened_only_iff .lifecycle log
  rw [quiet, state]
  refine ⟨projection.relevant_events canonical, fun e x => projection.mem_relevant,
    ⟨course_of_quiet (relevant_own log), ?_⟩, fun status course => ?_, recorded_phases folded,
    currentPhase_eq folded⟩
  · rintro ⟨status, course⟩
    exact (findings_of_course course).1
  · exact (findings_of_course course).2

/-- A mission takes its course with a pause in it. A phase that is entered behind its end leaves the
    course, and is not recorded. -/
theorem quiet_iff_course_completed :
    let event (id : String) (clock : Nat) (eventType : String) (members : List (String × Json)) :=
      Event.plain id clock eventType (.object members)
    let log := [event "e1" 1 "MissionCreated" [("mission_type", .string "research")],
      event "e2" 2 "MissionStarted" [], event "e3" 3 "PhaseEntered" [("phase", .string "specify")],
      event "e4" 4 "MissionPaused" [], event "e5" 5 "MissionResumed" [],
      event "e6" 6 "MissionCompleted" []]
    let strayed := log ++ [event "e7" 7 "PhaseEntered" [("phase", .string "review")]]
    let s := projection.reduce log
    let t := projection.reduce strayed
    (∀ a ∈ s.anomalies, a.kind.IsScreened) ∧ s.state.status = some .completed ∧
      s.state.phaseHistory.map (·.phase) = ["specify"] ∧ s.state.currentPhase = some "specify" ∧
      t.anomalies.map (·.kind) = [.eventAfterTerminal] ∧ t.state = s.state ∧
      ¬ ∃ status,
        Course ((projection.relevant (Event.canonicalize strayed)).map (·.2.kind)) status := by
  intro event log strayed s t
  have sorted : Event.Ascending strayed := by decide
  have canonical : Event.canonicalize log = log :=
    Event.canonicalize_of_ascending (List.pairwise_append.mp sorted).1 (by decide)
  have canonical' : Event.canonicalize strayed = strayed :=
    Event.canonicalize_of_ascending sorted (by decide)
  have kinds : (projection.relevant log).map (·.2.kind) =
      [.missionCreated, .missionStarted, .phaseEntered, .missionPaused, .missionResumed,
        .missionCompleted] := by
    decide +kernel
  have course : Course ((projection.relevant (Event.canonicalize log)).map (·.2.kind))
      (some .completed) := by
    rw [canonical, kinds]
    exact .created (.move .start (.move (.enter rfl) (.move .pause (.move .resume
      (.move .complete .done)))))
  have phases : s.state.phaseHistory.map (·.phase) = ["specify"] ∧
      s.state.currentPhase = some "specify" := by
    dsimp only [s]
    rw [projection.reduce_state, canonical]
    decide +kernel
  have late : t.anomalies.map (·.kind) = [.eventAfterTerminal] := by
    dsimp only [t]
    rw [projection.reduce_entries, canonical']
    decide +kernel
  have same : t.state = s.state := by
    dsimp only [s, t]
    rw [projection.reduce_state, projection.reduce_state, canonical, canonical']
    decide +kernel
  obtain ⟨-, -, quiet, reached, -⟩ := quiet_iff_course log
  obtain ⟨-, -, strays, -⟩ := quiet_iff_course strayed
  refine ⟨quiet.mpr ⟨_, course⟩, reached _ course, phases.1, phases.2, late, same, fun astray => ?_⟩
  obtain ⟨a, member, kind⟩ : ∃ a ∈ t.anomalies, a.kind = .eventAfterTerminal :=
    List.mem_map.mp (late ▸ List.mem_singleton_self _)
  exact absurd (strays.mpr astray a member) (by rw [kind]; decide)

end EventLedger.Lifecycle
