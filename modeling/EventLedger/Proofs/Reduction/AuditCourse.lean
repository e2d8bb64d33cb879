import EventLedger.Proofs.Reduction.Accounting
import EventLedger.Proofs.Reduction.Audit
import EventLedger.Proofs.Reduction.Sifting
import EventLedger.Proofs.Reduction.Terminal

/-! What an audit goes through that ends with nothing odd about it. Main statement: it is requested, may
be started, is asked for decisions, and ends; it need not have been started. -/

namespace EventLedger.MissionAudit

variable {s : State} {e : Event} {x : Payload} {events : List (Event × Payload)}

def endsAudit : Kind → Bool
  | .missionAuditCompleted | .missionAuditFailed => true
  | _ => false

def decision? : Payload → Option String
  | .missionAuditDecisionRequested p => some p.decisionId
  | _ => none

/-- Any number of decisions, and then the end. -/
def Closes (ks : List Kind) : Prop :=
  ∃ n last, endsAudit last = true ∧ ks = List.replicate n .missionAuditDecisionRequested ++ [last]

theorem not_closes_nil : ¬ Closes [] := by
  rintro ⟨n, last, -, same⟩
  exact List.append_ne_nil_of_right_ne_nil _ (List.cons_ne_nil _ _) same.symm

theorem closes_cons_iff {k : Kind} {rest : List Kind} :
    Closes (k :: rest) ↔
      k = .missionAuditDecisionRequested ∧ Closes rest ∨ endsAudit k = true ∧ rest = [] := by
  constructor
  · rintro ⟨n, last, ends, same⟩
    cases n with
    | zero =>
      obtain ⟨rfl, rfl⟩ := List.cons_eq_cons.mp same
      exact .inr ⟨ends, rfl⟩
    | succ n =>
      obtain ⟨rfl, rfl⟩ := List.cons_eq_cons.mp same
      exact .inl ⟨rfl, n, last, ends, rfl⟩
  · rintro (⟨rfl, n, last, ends, rfl⟩ | ⟨ends, rfl⟩)
    · exact ⟨n + 1, last, ends, rfl⟩
    · exact ⟨0, k, ends, rfl⟩

theorem requested_again (requested : s.requested = true) : { s with requested := true } = s := by
  rw [← requested]

theorem unrequested_eq_nil (requested : s.requested = true) : unrequested s e = [] := if_pos requested

section Requested

variable (requested : s.requested = true) (unended : s.status.isTerminal = false)

include requested unended

theorem step_request (p : Payload.MissionAuditRequested) :
    (step s e (.missionAuditRequested p)).2 ≠ [] := by
  rw [step_unended unended, proceed, request, if_pos requested]
  exact List.cons_ne_nil _ _

theorem step_start (p : Payload.MissionAuditStarted) :
    step s e (.missionAuditStarted p) = commence s p := by
  rw [step_unended unended, proceed, requested_again requested, unrequested_eq_nil requested]
  rfl

theorem step_ask (p : Payload.MissionAuditDecisionRequested) :
    step s e (.missionAuditDecisionRequested p) = ask s e p := by
  rw [step_unended unended, proceed, requested_again requested, unrequested_eq_nil requested]
  rfl

theorem step_complete (p : Payload.MissionAuditCompleted) :
    step s e (.missionAuditCompleted p) = (complete s p, prematureEnd s) := by
  rw [step_unended unended, proceed, requested_again requested, unrequested_eq_nil requested,
    List.append_nil]

theorem step_fail (p : Payload.MissionAuditFailed) :
    step s e (.missionAuditFailed p) = (fail s p, []) := by
  rw [step_unended unended, proceed, requested_again requested, unrequested_eq_nil requested]

end Requested

/-- The events bring an audit to its end, with nothing odd on the way. -/
def EndsQuietly (s : State) (events : List (Event × Payload)) : Prop :=
  (projection.findings s events).flatten = [] ∧
    (projection.after s events).status.isTerminal = true

theorem endsQuietly_cons {rest : List (Event × Payload)} :
    EndsQuietly s ((e, x) :: rest) ↔ (step s e x).2 = [] ∧ EndsQuietly (step s e x).1 rest := by
  unfold EndsQuietly
  rw [projection.findings_cons_quiet, Projection.after_cons, and_assoc]
  rfl

theorem endsQuietly_of_ended (ended : s.status.isTerminal = true) :
    EndsQuietly s events ↔ events = [] := by
  cases events with
  | nil => exact ⟨fun _ => rfl, fun _ => ⟨rfl, ended⟩⟩
  | cons y rest =>
    refine ⟨fun quiet => ?_, nofun⟩
    exact absurd (endsQuietly_cons.mp quiet).1 (step_ended ended y.1 y.2).2

def asks (events : List (Event × Payload)) : List String := events.filterMap fun y => decision? y.2

theorem asked_ask {p : Payload.MissionAuditDecisionRequested} (new : p.decisionId ∉ s.asked) :
    (ask s e p).1.asked = s.asked ++ [p.decisionId] := by
  rw [ask_new new, State.asked, PendingDecision.ids_append]
  rfl

theorem nodup_asked_ask {p : Payload.MissionAuditDecisionRequested} (distinct : s.asked.Nodup)
    (new : p.decisionId ∉ s.asked) : (ask s e p).1.asked.Nodup := by
  rw [ask_new new]
  exact PendingDecision.nodup_concat distinct new

theorem asks_of_ends (ends : endsAudit x.kind = true) (e : Event) (rest : List (Event × Payload)) :
    asks ((e, x) :: rest) = asks rest := by
  cases x with
  | missionAuditDecisionRequested p => cases ends
  | _ => rfl

theorem closes_of_ends (ends : endsAudit x.kind = true) {rest : List (Event × Payload)} :
    Closes (((e, x) :: rest).map (·.2.kind)) ↔ rest = [] := by
  rw [List.map_cons, closes_cons_iff, List.map_eq_nil_iff, and_iff_right ends, or_iff_right]
  rintro ⟨asked, -⟩
  rw [asked] at ends
  cases ends

/-- How an audit may go on to its end once it was requested. Without a start it takes a decision or a
    failure to end it. -/
def Proceeds (status : AuditStatus) (ks : List Kind) : Prop :=
  Closes ks ∧ (status = .pending → ks ≠ [.missionAuditCompleted]) ∨
    status = .pending ∧ ∃ later, ks = .missionAuditStarted :: later ∧ Closes later

theorem proceeds_iff_closes {status : AuditStatus} {ks : List Kind} (begun : status ≠ .pending) :
    Proceeds status ks ↔ Closes ks := by
  simp [Proceeds, begun]

theorem proceeds_of_ends {status : AuditStatus} (ends : endsAudit x.kind = true)
    (allowed : status = .pending → x.kind ≠ .missionAuditCompleted) {rest : List (Event × Payload)} :
    Proceeds status (((e, x) :: rest).map (·.2.kind)) ↔ rest = [] := by
  rw [Proceeds, closes_of_ends ends, List.map_cons]
  constructor
  · rintro (⟨nothing, -⟩ | ⟨-, later, start, -⟩)
    · exact nothing
    · rw [(List.cons_eq_cons.mp start).1] at ends
      cases ends
  · rintro rfl
    exact .inl ⟨rfl, fun pending same => allowed pending (List.cons_eq_cons.mp same).1⟩

/-- An end that is not odd has to be the last event. -/
theorem endsQuietly_last (distinct : s.asked.Nodup) (ends : endsAudit x.kind = true)
    (allowed : s.status = .pending → x.kind ≠ .missionAuditCompleted) (quiet : (step s e x).2 = [])
    (ended : (step s e x).1.status.isTerminal = true) (rest : List (Event × Payload)) :
    EndsQuietly s ((e, x) :: rest) ↔ (s.asked ++ asks ((e, x) :: rest)).Nodup ∧
      Proceeds s.status (((e, x) :: rest).map (·.2.kind)) := by
  rw [endsQuietly_cons, and_iff_right quiet, endsQuietly_of_ended ended,
    proceeds_of_ends ends allowed, asks_of_ends ends]
  refine ⟨fun nothing => ⟨?_, nothing⟩, And.right⟩
  rw [nothing]
  exact (List.append_nil s.asked).symm ▸ distinct

/-- Once it was requested an audit goes quietly to its end exactly when it proceeds as it may, and the
    decisions it is asked for are new. -/
theorem endsQuietly_iff_proceeds (requested : s.requested = true)
    (unended : s.status.isTerminal = false) (distinct : s.asked.Nodup)
    (own : ∀ y ∈ events, y.2.kind ∈ kinds) :
    EndsQuietly s events ↔
      (s.asked ++ asks events).Nodup ∧ Proceeds s.status (events.map (·.2.kind)) := by
  induction events generalizing s with
  | nil =>
    refine ⟨fun quiet => absurd quiet.2 (Bool.eq_false_iff.mp unended), ?_⟩
    rintro ⟨-, ⟨closed, -⟩ | ⟨-, later, none, -⟩⟩
    · exact absurd closed not_closes_nil
    · cases none
  | cons y rest ih =>
    obtain ⟨e, x⟩ := y
    have later : ∀ z ∈ rest, z.2.kind ∈ kinds := fun z member => own z (List.mem_cons_of_mem _ member)
    cases x with
    | missionAuditRequested p =>
      have odd := step_request (e := e) requested unended p
      rw [endsQuietly_cons]
      simp [odd, Proceeds, closes_cons_iff, Payload.kind, endsAudit]
    | missionAuditStarted p =>
      have skipped : asks ((e, .missionAuditStarted p) :: rest) = asks rest := rfl
      rw [endsQuietly_cons, step_start requested unended, commence, skipped]
      by_cases pending : s.status = .pending
      · rw [if_pos pending]
        have onwards : EndsQuietly { s with status := .running, auditScope := p.auditScope } rest ↔
            (s.asked ++ asks rest).Nodup ∧ Proceeds .running (rest.map (·.2.kind)) :=
          ih requested rfl distinct later
        have begun : AuditStatus.running ≠ .pending := by decide
        rw [onwards, proceeds_iff_closes begun]
        simp [Proceeds, closes_cons_iff, pending, Payload.kind, endsAudit]
      · rw [if_neg pending]
        simp [Proceeds, closes_cons_iff, pending, Payload.kind, endsAudit]
    | missionAuditDecisionRequested p =>
      have first : asks ((e, .missionAuditDecisionRequested p) :: rest) =
          p.decisionId :: asks rest := rfl
      rw [endsQuietly_cons, step_ask requested unended, first]
      -- A decision that is pending is reported if it is asked for again, and repeats an id.
      by_cases known : p.decisionId ∈ s.asked
      · have repeated : ¬ (s.asked ++ p.decisionId :: asks rest).Nodup := fun nodup =>
          (List.nodup_append.mp nodup).2.2 _ known _ List.mem_cons_self rfl
        simp [ask_known known, repeated]
      · have quiet : (ask s e p).2 = [] := by rw [ask_new known]
        have still : (ask s e p).1.requested = true := by rw [ask_new known]; exact requested
        have awaiting : (ask s e p).1.status = .awaitingDecision := by rw [ask_new known]
        rw [ih still (by rw [awaiting]; rfl) (nodup_asked_ask distinct known) later, asked_ask known,
          proceeds_iff_closes (by rw [awaiting]; decide), List.append_assoc, List.singleton_append]
        simp [quiet, Proceeds, closes_cons_iff, Payload.kind, endsAudit]
    | missionAuditCompleted p =>
      have stepped := step_complete (e := e) requested unended p
      by_cases pending : s.status = .pending
      · have odd : prematureEnd s ≠ [] := by simp [prematureEnd, requested, pending]
        rw [endsQuietly_cons, stepped]
        simp [odd, Proceeds, closes_cons_iff, pending, Payload.kind, endsAudit]
      · have quiet : prematureEnd s = [] := by simp [prematureEnd, pending]
        exact endsQuietly_last distinct rfl (fun still => absurd still pending)
          (by rw [stepped, quiet]) (by rw [stepped]; rfl) rest
    | missionAuditFailed p =>
      have stepped := step_fail (e := e) requested unended p
      exact endsQuietly_last distinct rfl (fun _ => by rw [Payload.kind]; decide) (by rw [stepped])
        (by rw [stepped]; rfl) rest
    | _ => exact absurd (own _ List.mem_cons_self) (by rw [Payload.kind]; decide)

theorem step_unrequested (own : x.kind ∈ kinds) :
    (step {} e x).2 = [] ↔ x.kind = .missionAuditRequested := by
  cases x with
  | missionAuditRequested p => exact ⟨fun _ => rfl, fun _ => rfl⟩
  | missionAuditStarted p | missionAuditDecisionRequested p | missionAuditCompleted p
  | missionAuditFailed p => exact ⟨nofun, nofun⟩
  | _ => exact absurd own (by rw [Payload.kind]; decide)

theorem not_endsQuietly_nil : ¬ EndsQuietly {} [] := fun quiet => nomatch quiet.2

theorem endsQuietly_iff (own : ∀ y ∈ events, y.2.kind ∈ kinds) :
    EndsQuietly {} events ↔ (asks events).Nodup ∧
      ∃ later, events.map (·.2.kind) = .missionAuditRequested :: later ∧ Proceeds .pending later := by
  cases events with
  | nil =>
    refine ⟨fun quiet => absurd quiet not_endsQuietly_nil, ?_⟩
    rintro ⟨-, later, none, -⟩
    cases none
  | cons y rest =>
    obtain ⟨e, x⟩ := y
    rw [endsQuietly_cons, step_unrequested (own _ List.mem_cons_self), List.map_cons]
    by_cases first : x.kind = .missionAuditRequested
    · cases x with
      | missionAuditRequested p =>
        have onwards : EndsQuietly { requested := true, triggerMode := p.triggerMode } rest ↔
            (asks rest).Nodup ∧ Proceeds .pending (rest.map (·.2.kind)) :=
          endsQuietly_iff_proceeds rfl rfl List.nodup_nil
            fun z member => own z (List.mem_cons_of_mem _ member)
        rw [and_iff_right first]
        refine onwards.trans (and_congr_right fun _ => ⟨fun proceeds => ⟨_, rfl, proceeds⟩, ?_⟩)
        rintro ⟨later, same, proceeds⟩
        rwa [(List.cons_eq_cons.mp same).2]
      | _ => cases first
    · simp [first]

/-- Decisions are asked for, and the audit ends, only after it was started. -/
def StartsFirst (ks : List Kind) : Prop :=
  ∀ front k back, ks = front ++ k :: back →
    k = .missionAuditDecisionRequested ∨ endsAudit k = true → .missionAuditStarted ∈ front

theorem startsFirst_started (rest : List Kind) :
    StartsFirst (.missionAuditRequested :: .missionAuditStarted :: rest) := by
  intro front k back split concerned
  match front with
  | [] =>
    rw [← (List.cons_eq_cons.mp split).1] at concerned
    rcases concerned with asked | ended
    · cases asked
    · cases ended
  | [_] =>
    rw [← (List.cons_eq_cons.mp (List.cons_eq_cons.mp split).2).1] at concerned
    rcases concerned with asked | ended
    · cases asked
    · cases ended
  | _ :: second :: _ =>
    rw [← (List.cons_eq_cons.mp (List.cons_eq_cons.mp split).2).1]
    exact List.mem_cons_of_mem _ List.mem_cons_self

theorem not_startsFirst_closes {later : List Kind} (closes : Closes later) :
    ¬ StartsFirst (.missionAuditRequested :: later) := by
  obtain ⟨n, last, ends, rfl⟩ := closes
  intro first
  have started := first (.missionAuditRequested :: List.replicate n .missionAuditDecisionRequested)
    last [] rfl (.inr ends)
  rcases List.mem_cons.mp started with same | later
  · cases same
  · cases List.eq_of_mem_replicate later

/-- The audits that end with nothing odd about them: of those that were started first, and of the others.
    Without a start an audit may fail at once, or be asked for a decision and then end either way; only
    its completion right after the request is reported. -/
theorem ends_quietly_started_iff (log : List Event) :
    let folded := projection.relevant (Event.canonicalize log)
    let ks := folded.map (·.2.kind)
    let s := projection.reduce log
    let quiet := (∀ a ∈ s.anomalies, a.kind.IsScreened) ∧ s.state.status.isTerminal = true
    (quiet ∧ StartsFirst ks ↔ (asks folded).Nodup ∧
        ∃ rest, ks = .missionAuditRequested :: .missionAuditStarted :: rest ∧ Closes rest) ∧
      (quiet ∧ ¬ StartsFirst ks ↔ (asks folded).Nodup ∧
        ∃ rest, ks = .missionAuditRequested :: rest ∧ Closes rest ∧
          rest ≠ [.missionAuditCompleted]) := by
  intro folded ks s quiet
  have own : ∀ y ∈ folded, y.2.kind ∈ kinds :=
    fun _ member => (projection.mem_relevant.mp member).2.2
  have ends : quiet ↔ (asks folded).Nodup ∧
      ∃ later, ks = .missionAuditRequested :: later ∧ Proceeds .pending later := by
    rw [← endsQuietly_iff own]
    refine and_congr (Domain.screened_only_iff .missionAudit log) ?_
    dsimp only [s]
    rw [projection.reduce_state]
    rfl
  rw [ends]
  constructor
  · constructor
    · rintro ⟨⟨distinct, later, same, ⟨closes, -⟩ | ⟨-, rest, rfl, closes⟩⟩, first⟩
      · rw [same] at first
        exact absurd first (not_startsFirst_closes closes)
      · exact ⟨distinct, rest, same, closes⟩
    · rintro ⟨distinct, rest, same, closes⟩
      refine ⟨⟨distinct, _, same, .inr ⟨rfl, rest, rfl, closes⟩⟩, ?_⟩
      rw [same]
      exact startsFirst_started rest
  · constructor
    · rintro ⟨⟨distinct, later, same, ⟨closes, undecided⟩ | ⟨-, rest, rfl, -⟩⟩, unstarted⟩
      · exact ⟨distinct, later, same, closes, undecided rfl⟩
      · rw [same] at unstarted
        exact absurd (startsFirst_started rest) unstarted
    · rintro ⟨distinct, rest, same, closes, undecided⟩
      refine ⟨⟨distinct, rest, same, .inl ⟨closes, fun _ => undecided⟩⟩, ?_⟩
      rw [same]
      exact not_startsFirst_closes closes

/-- An audit is asked for a decision and completed, and never started. -/
theorem decision_hides_missing_start :
    let log := [Event.plain "e1" 1 "MissionAuditRequested" (.object []),
      Event.plain "e2" 2 "MissionAuditDecisionRequested" (.object [("decision_id", .string "d1")]),
      Event.plain "e3" 3 "MissionAuditCompleted" (.object [("verdict", .string "pass")])]
    let s := projection.reduce log
    s.anomalies = [] ∧ s.state.status = .completed ∧
      ¬ StartsFirst ((projection.relevant (Event.canonicalize log)).map (·.2.kind)) := by
  intro log s
  have sorted : Event.Ascending log := by decide
  have canonical : Event.canonicalize log = log := Event.canonicalize_of_ascending sorted (by decide)
  have kinds : (projection.relevant log).map (·.2.kind) =
      [.missionAuditRequested, .missionAuditDecisionRequested, .missionAuditCompleted] := by
    decide +kernel
  refine ⟨?_, ?_, ?_⟩
  · dsimp only [s]
    rw [projection.reduce_entries, canonical]
    decide +kernel
  · dsimp only [s]
    rw [projection.reduce_state, canonical]
    decide +kernel
  · rw [canonical, kinds]
    exact not_startsFirst_closes ⟨1, .missionAuditCompleted, rfl, rfl⟩

end EventLedger.MissionAudit
