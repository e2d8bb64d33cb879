import EventLedger.Proofs.Reduction.Accounting
import EventLedger.Proofs.Reduction.Pending

/-! What is known of a mission run, and what becomes of the decisions it asks for. Main statement: the
run waits exactly while a decision is pending, and none of them is lost or answered twice. -/

namespace EventLedger.MissionNext

variable {s : State} {e : Event} {x : Payload}

def State.asked (s : State) : List String := PendingDecision.ids s.pending

/-- What is true of a run, wherever it stands. -/
structure State.Coherent (s : State) : Prop where
  distinct : s.asked.Nodup
  waits : s.status = some .waitingInput ↔ s.pending ≠ []
  ended : s.status = some .completed → s.pending = [] ∧ s.currentStep = none
  unbegun : s.status = none →
    s.currentStep = none ∧ s.completedSteps = [] ∧ s.pending = [] ∧ s.answered = []

def named (s : State) (e : Event) : State := { s with runId := s.runId.or (some e.aggregateId) }

/-- All that an event can do. -/
theorem step_cases (s : State) (e : Event) (x : Payload) :
    (s.status = some .completed ∧
      step s e x =
        (named s e, [⟨.eventAfterTerminal, e.eventType ++ " after the run completed"⟩])) ∨
    (s.status ≠ some .completed ∧
      step s e x =
        ((proceed (named s e) e x).1, premature (named s e) e x ++ (proceed (named s e) e x).2)) := by
  by_cases ended : s.status = some .completed
  · exact .inl ⟨ended, if_pos ended⟩
  · exact .inr ⟨ended, if_neg ended⟩

theorem ask_known {p : Payload.DecisionInputRequested} (known : p.decisionId ∈ s.asked) :
    ask s e p =
      (s, [⟨.duplicateDecisionId, "Decision " ++ p.decisionId ++ " is already pending"⟩]) :=
  if_pos (PendingDecision.any_id_iff.mpr known)

theorem ask_new {p : Payload.DecisionInputRequested} (new : p.decisionId ∉ s.asked) :
    ask s e p =
      (settle { s with pending := s.pending ++ [⟨p.decisionId, p.question, p.options, e.id⟩] }, []) :=
  if_neg (mt PendingDecision.any_id_iff.mp new)

theorem answer_unknown {p : Payload.DecisionInputAnswered} (unknown : p.decisionId ∉ s.asked) :
    answer s p = (s, [⟨.unknownDecision, "Answer for unknown decision " ++ p.decisionId⟩]) := by
  unfold answer
  rw [PendingDecision.find?_id_eq_none.mpr unknown]

theorem answer_known {p : Payload.DecisionInputAnswered} (known : p.decisionId ∈ s.asked) :
    ∃ found, answer s p =
        (settle { s with
            pending := s.pending.eraseP fun d => d.decisionId == p.decisionId
            answered := s.answered ++ [⟨p.decisionId, p.answer, p.actor⟩] }, found) ∧
      ∀ f ∈ found, f.kind = .invalidOption := by
  obtain ⟨d, present⟩ : ∃ d, s.pending.find? (fun d => d.decisionId == p.decisionId) = some d := by
    cases found : s.pending.find? fun d => d.decisionId == p.decisionId with
    | none => exact absurd known (PendingDecision.find?_id_eq_none.mp found)
    | some d => exact ⟨d, rfl⟩
  have same : d.decisionId = p.decisionId := by simpa using List.find?_some present
  unfold answer
  rw [present]
  dsimp only
  rw [same]
  refine ⟨_, rfl, fun f member => ?_⟩
  split at member
  · cases member
  · rw [List.mem_singleton.mp member]

theorem settle_status (s : State) :
    s.pending = [] ∧ (settle s).status = some .running ∨
      s.pending ≠ [] ∧ (settle s).status = some .waitingInput := by
  unfold settle
  cases s.pending with
  | nil => exact .inl ⟨rfl, rfl⟩
  | cons d rest => exact .inr ⟨List.cons_ne_nil d rest, rfl⟩

theorem State.Coherent.settle (distinct : s.asked.Nodup) : (settle s).Coherent := by
  rcases settle_status s with ⟨nothing, running⟩ | ⟨waiting, status⟩
  · refine ⟨distinct, ?_, ?_, nofun⟩
    · rw [running]
      exact ⟨nofun, fun waiting => absurd nothing waiting⟩
    · rw [running]
      exact nofun
  · refine ⟨distinct, ⟨fun _ => waiting, fun _ => status⟩, ?_, nofun⟩
    rw [status]
    exact nofun

namespace State.Coherent

theorem beginRun (coherent : s.Coherent) (p : Payload.MissionRunStarted) :
    (beginRun s p).1.Coherent := by
  unfold MissionNext.beginRun
  split
  · exact coherent
  · exact settle coherent.distinct

theorem completeStep (coherent : s.Coherent) (p : Payload.NextStepAutoCompleted) :
    (completeStep s p).1.Coherent := by
  unfold MissionNext.completeStep
  dsimp only
  split <;> exact settle coherent.distinct

theorem ask (coherent : s.Coherent) (e : Event) (p : Payload.DecisionInputRequested) :
    (ask s e p).1.Coherent := by
  by_cases known : p.decisionId ∈ s.asked
  · rw [ask_known known]
    exact coherent
  · rw [ask_new known]
    exact settle (PendingDecision.nodup_concat coherent.distinct known)

theorem answer (coherent : s.Coherent) (p : Payload.DecisionInputAnswered) :
    (answer s p).1.Coherent := by
  by_cases known : p.decisionId ∈ s.asked
  · obtain ⟨found, answered, -⟩ := answer_known known
    rw [answered]
    exact settle (PendingDecision.nodup_eraseP coherent.distinct _)
  · rw [answer_unknown known]
    exact coherent

theorem proceed (coherent : s.Coherent) (e : Event) (x : Payload) : (proceed s e x).1.Coherent := by
  cases x with
  | missionRunStarted p => exact coherent.beginRun p
  | nextStepIssued p => exact settle coherent.distinct
  | nextStepAutoCompleted p => exact coherent.completeStep p
  | decisionInputRequested p => exact coherent.ask e p
  | decisionInputAnswered p => exact coherent.answer p
  | missionRunCompleted p =>
    exact ⟨List.nodup_nil, ⟨nofun, fun waiting => absurd rfl waiting⟩, fun _ => ⟨rfl, rfl⟩, nofun⟩
  | _ => exact settle coherent.distinct

theorem step (coherent : s.Coherent) (e : Event) (x : Payload) : (step s e x).1.Coherent := by
  have known : (named s e).Coherent :=
    ⟨coherent.distinct, coherent.waits, coherent.ended, coherent.unbegun⟩
  rcases step_cases s e x with ⟨-, refused⟩ | ⟨-, made⟩
  · rw [refused]
    exact known
  · rw [made]
    exact known.proceed e x

end State.Coherent

theorem coherent_start : State.Coherent {} :=
  ⟨List.nodup_nil, ⟨nofun, fun waiting => absurd rfl waiting⟩, nofun, fun _ => ⟨rfl, rfl, rfl, rfl⟩⟩

theorem coherent_reduce (log : List Event) : (projection.reduce log).state.Coherent := by
  rw [projection.reduce_state]
  exact projection.after_keeps State.Coherent (fun _ e x coherent => coherent.step e x) coherent_start _

/-- How many decisions are pending or answered. -/
def State.opened (s : State) : Nat := s.pending.length + s.answered.length

/-- A step that does not end the run opens a decision, or answers one, where the event asks for that,
    unless it finds that it cannot. -/
structure Tallies (s : State) (k : Kind) (r : State × List Finding) : Prop where
  unended : r.1.status ≠ some .completed
  opened : r.1.opened + r.2.countP (fun f => f.kind = .duplicateDecisionId) =
    s.opened + if k = .decisionInputRequested then 1 else 0
  answered : r.1.answered.length + r.2.countP (fun f => f.kind = .unknownDecision) =
    s.answered.length + if k = .decisionInputAnswered then 1 else 0

theorem settle_unended (s : State) : (settle s).status ≠ some .completed := by
  rcases settle_status s with ⟨-, running⟩ | ⟨-, waiting⟩
  · rw [running]
    decide
  · rw [waiting]
    decide

theorem tallies_ask (unended : s.status ≠ some .completed) (e : Event)
    (p : Payload.DecisionInputRequested) : Tallies s .decisionInputRequested (ask s e p) := by
  by_cases known : p.decisionId ∈ s.asked
  · rw [ask_known known]
    exact ⟨unended, rfl, rfl⟩
  · rw [ask_new known]
    refine ⟨settle_unended _, ?_, rfl⟩
    simp only [State.opened, settle, List.length_append, List.length_singleton, List.countP_nil,
      if_true]
    omega

theorem tallies_answer (unended : s.status ≠ some .completed) (p : Payload.DecisionInputAnswered) :
    Tallies s .decisionInputAnswered (answer s p) := by
  by_cases known : p.decisionId ∈ s.asked
  · obtain ⟨found, answered, odd⟩ := answer_known known
    have uncounted {k : AnomalyKind} (other : k ≠ .invalidOption) :
        found.countP (fun f => f.kind = k) = 0 :=
      List.countP_eq_zero.mpr fun f member same => other (of_decide_eq_true same ▸ odd f member)
    -- One decision less is pending, and one more is answered.
    have taken := PendingDecision.length_eraseP_id known
    rw [answered]
    refine ⟨settle_unended _, ?_, ?_⟩
    · rw [uncounted (by decide)]
      simp only [State.opened, settle, List.length_append, List.length_singleton, reduceCtorEq, if_false]
      omega
    · rw [uncounted (by decide)]
      simp only [settle, List.length_append, List.length_singleton, if_true]
  · rw [answer_unknown known]
    exact ⟨unended, rfl, rfl⟩

theorem tallies_proceed (unended : s.status ≠ some .completed) (e : Event)
    (ongoing : x.kind ≠ .missionRunCompleted) : Tallies s x.kind (proceed s e x) := by
  cases x with
  | missionRunStarted p =>
    unfold proceed beginRun
    dsimp only
    split
    · exact ⟨unended, rfl, rfl⟩
    · exact ⟨settle_unended _, rfl, rfl⟩
  | nextStepAutoCompleted p =>
    unfold proceed completeStep
    dsimp only
    split <;> exact ⟨settle_unended _, rfl, rfl⟩
  | decisionInputRequested p => exact tallies_ask unended e p
  | decisionInputAnswered p => exact tallies_answer unended p
  | missionRunCompleted p => exact absurd rfl ongoing
  | _ => exact ⟨settle_unended _, rfl, rfl⟩

theorem countP_premature (s : State) (e : Event) (x : Payload) {k : AnomalyKind}
    (other : k ≠ .eventBeforeRunStarted) :
    (premature s e x).countP (fun f => f.kind = k) = 0 := by
  refine List.countP_eq_zero.mpr fun f member same => other ?_
  unfold premature at member
  split at member
  · cases member
  · rw [← of_decide_eq_true same, List.mem_singleton.mp member]
  · cases member

theorem tallies_step (unended : s.status ≠ some .completed) (e : Event)
    (ongoing : x.kind ≠ .missionRunCompleted) : Tallies s x.kind (step s e x) := by
  rcases step_cases s e x with ⟨ended, -⟩ | ⟨-, made⟩
  · exact absurd ended unended
  · have tallies := tallies_proceed (s := named s e) unended e ongoing
    rw [made]
    refine ⟨tallies.unended, ?_, ?_⟩
    · rw [List.countP_append, countP_premature _ _ _ (by decide), Nat.zero_add]
      exact tallies.opened
    · rw [List.countP_append, countP_premature _ _ _ (by decide), Nat.zero_add]
      exact tallies.answered

variable {events : List (Event × Payload)}

theorem after_opened (unended : s.status ≠ some .completed)
    (ongoing : ∀ y ∈ events, y.2.kind ≠ .missionRunCompleted) :
    (projection.after s events).opened +
        (projection.findings s events).flatten.countP (fun a => a.kind = .duplicateDecisionId) =
      s.opened + events.countP fun y => y.2.kind = .decisionInputRequested := by
  refine projection.after_tally State.opened .duplicateDecisionId
    (fun x => x.kind = .decisionInputRequested)
    (fun t e x (unended : t.status ≠ some .completed) (ongoing : x.kind ≠ .missionRunCompleted) => ?_)
    unended ongoing
  have tallies := tallies_step unended e ongoing
  exact ⟨tallies.unended, tallies.opened⟩

theorem after_answered (unended : s.status ≠ some .completed)
    (ongoing : ∀ y ∈ events, y.2.kind ≠ .missionRunCompleted) :
    (projection.after s events).answered.length +
        (projection.findings s events).flatten.countP (fun a => a.kind = .unknownDecision) =
      s.answered.length + events.countP fun y => y.2.kind = .decisionInputAnswered := by
  refine projection.after_tally (fun t => t.answered.length) .unknownDecision
    (fun x => x.kind = .decisionInputAnswered)
    (fun t e x (unended : t.status ≠ some .completed) (ongoing : x.kind ≠ .missionRunCompleted) => ?_)
    unended ongoing
  have tallies := tallies_step unended e ongoing
  exact ⟨tallies.unended, tallies.answered⟩

/-- A run waits exactly while decisions are pending, which are all different; a completed run has none
    left, and no step, and one without a status has nothing at all. Unless it was completed, every
    decision asked for is pending or answered, once, or was pending already, and every answer was given
    to a decision that was pending, or was to none. -/
theorem decisions_conserved (log : List Event) :
    let folded := projection.relevant (Event.canonicalize log)
    let s := projection.reduce log
    s.state.Coherent ∧
      ((∀ y ∈ folded, y.2.kind ≠ .missionRunCompleted) →
        s.state.pending.length + s.state.answered.length + (s.ofKind .duplicateDecisionId).length =
            (folded.countP fun y => y.2.kind = .decisionInputRequested) ∧
          s.state.answered.length + (s.ofKind .unknownDecision).length =
            folded.countP fun y => y.2.kind = .decisionInputAnswered) := by
  intro folded s
  refine ⟨coherent_reduce log, fun ongoing => ?_⟩
  have state : s.state = projection.after {} folded := projection.reduce_state log
  have number {k : AnomalyKind} (unscreened : ¬ k.IsScreened) :
      (s.ofKind k).length = (projection.findings {} folded).flatten.countP fun a => a.kind = k := by
    rw [List.countP_eq_length_filter]
    exact congrArg List.length (Domain.ofKind_folded .missionNext log unscreened)
  have begun : ({} : State).status ≠ some .completed := nofun
  rw [number (by decide), number (by decide), state]
  exact ⟨(after_opened begun ongoing).trans (Nat.zero_add _),
    (after_answered begun ongoing).trans (Nat.zero_add _)⟩

/-- One decision is asked for twice and answered, another is left pending, and one that was not asked
    for is answered too. -/
theorem decisions_conserved_stray_answer :
    let requested (id : String) (clock : Nat) (decision : String) : Event :=
      Event.plain id clock "DecisionInputRequested" (.object [("decision_id", .string decision)])
    let answered (id : String) (clock : Nat) (decision : String) : Event :=
      Event.plain id clock "DecisionInputAnswered" (.object [("answer", .string "yes"),
        ("decision_id", .string decision)])
    let log := [Event.plain "e1" 1 "MissionRunStarted" (.object [("mission_type", .string "research")]),
      requested "e2" 2 "q1", requested "e3" 3 "q1", answered "e4" 4 "q9", answered "e5" 5 "q1",
      requested "e6" 6 "q2"]
    let folded := projection.relevant (Event.canonicalize log)
    let s := projection.reduce log
    (∀ y ∈ folded, y.2.kind ≠ .missionRunCompleted) ∧
      (folded.countP fun y => y.2.kind = .decisionInputRequested) = 3 ∧
      (s.ofKind .duplicateDecisionId).length = 1 ∧
      s.state.pending.length + s.state.answered.length + (s.ofKind .duplicateDecisionId).length =
        folded.countP fun y => y.2.kind = .decisionInputRequested := by
  intro requested answered log folded s
  have sorted : Event.Ascending log := by decide
  have canonical : Event.canonicalize log = log := Event.canonicalize_of_ascending sorted (by decide)
  have ongoing : ∀ y ∈ folded, y.2.kind ≠ .missionRunCompleted := by
    dsimp only [folded]
    rw [canonical]
    decide +kernel
  refine ⟨ongoing, ?_, ?_, ((decisions_conserved log).2 ongoing).1⟩
  · dsimp only [folded]
    rw [canonical]
    decide +kernel
  · rw [Snapshot.ofKind, projection.reduce_entries, canonical]
    decide +kernel

end EventLedger.MissionNext
