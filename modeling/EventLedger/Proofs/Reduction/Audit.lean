import EventLedger.Proofs.Order.Canonical
import EventLedger.Proofs.Reduction.Pending
import EventLedger.Proofs.Reduction.Screening

/-! What is known of an audit, and when. Main statement: decisions are pending exactly while it waits for
one, and its results come with the end that they belong to. -/

namespace EventLedger.MissionAudit

variable {s : State} {e : Event} {x : Payload}

def State.asked (s : State) : List String := PendingDecision.ids s.pending

/-- What is true of an audit, wherever it stands. -/
structure State.Coherent (s : State) : Prop where
  distinct : s.asked.Nodup
  awaits : s.pending ≠ [] ↔ s.status = .awaitingDecision
  judged : s.verdict.isSome ↔ s.status = .completed
  failed : s.failure.isSome ↔ s.status = .failed
  results : s.status ≠ .completed →
    s.severity = none ∧ s.findingsCount = 0 ∧ s.artifactRef = none ∧ s.summary = none

theorem step_unended (unended : s.status.isTerminal = false) : step s e x = proceed s e x := by
  unfold step
  rw [unended]
  rfl

theorem ask_known {p : Payload.MissionAuditDecisionRequested} (known : p.decisionId ∈ s.asked) :
    ask s e p =
      (s, [⟨.duplicateDecisionId, "Decision " ++ p.decisionId ++ " is already pending"⟩]) :=
  if_pos (PendingDecision.any_id_iff.mpr known)

theorem ask_new {p : Payload.MissionAuditDecisionRequested} (new : p.decisionId ∉ s.asked) :
    ask s e p =
      ({ s with
          pending := s.pending ++ [⟨p.decisionId, p.question, p.options, e.id⟩]
          status := .awaitingDecision }, []) :=
  if_neg (mt PendingDecision.any_id_iff.mp new)

/-- Nothing has come of the audit yet. -/
def State.Unsettled (s : State) : Prop :=
  s.verdict = none ∧ s.failure = none ∧ s.severity = none ∧ s.findingsCount = 0 ∧
    s.artifactRef = none ∧ s.summary = none

theorem State.Coherent.unsettled (coherent : s.Coherent) (unended : s.status.isTerminal = false) :
    s.Unsettled := by
  have uncompleted : s.status ≠ .completed := fun ended => by rw [ended] at unended; cases unended
  have unfailed : s.status ≠ .failed := fun ended => by rw [ended] at unended; cases unended
  exact ⟨Option.not_isSome_iff_eq_none.mp (mt coherent.judged.mp uncompleted),
    Option.not_isSome_iff_eq_none.mp (mt coherent.failed.mp unfailed), coherent.results uncompleted⟩

theorem State.Unsettled.coherent (unsettled : s.Unsettled) (unended : s.status.isTerminal = false)
    (distinct : s.asked.Nodup) (awaits : s.pending ≠ [] ↔ s.status = .awaitingDecision) :
    s.Coherent := by
  obtain ⟨verdict, failure, results⟩ := unsettled
  refine ⟨distinct, awaits, ?_, ?_, fun _ => results⟩
  · rw [verdict]
    exact ⟨nofun, fun ended => by rw [ended] at unended; cases unended⟩
  · rw [failure]
    exact ⟨nofun, fun ended => by rw [ended] at unended; cases unended⟩

namespace State.Coherent

theorem request (coherent : s.Coherent) (p : Payload.MissionAuditRequested) :
    (request s p).1.Coherent := by
  unfold MissionAudit.request
  split
  · exact coherent
  · exact ⟨coherent.distinct, coherent.awaits, coherent.judged, coherent.failed, coherent.results⟩

theorem commence (coherent : s.Coherent) (p : Payload.MissionAuditStarted) :
    (commence s p).1.Coherent := by
  unfold MissionAudit.commence
  split
  · rename_i pending
    have waitsForNone : s.pending = [] := by
      by_contra waiting
      have awaits := coherent.awaits.mp waiting
      rw [pending] at awaits
      cases awaits
    have unsettled : s.Unsettled := coherent.unsettled (by rw [pending]; rfl)
    exact State.Unsettled.coherent unsettled rfl coherent.distinct
      ⟨fun waiting => absurd waitsForNone waiting, nofun⟩
  · exact coherent

theorem ask (coherent : s.Coherent) (unended : s.status.isTerminal = false) (e : Event)
    (p : Payload.MissionAuditDecisionRequested) : (ask s e p).1.Coherent := by
  by_cases known : p.decisionId ∈ s.asked
  · rw [ask_known known]
    exact coherent
  · rw [ask_new known]
    have unsettled : s.Unsettled := coherent.unsettled unended
    exact State.Unsettled.coherent unsettled rfl
      (PendingDecision.nodup_concat coherent.distinct known)
      ⟨fun _ => rfl, fun _ => List.append_ne_nil_of_right_ne_nil _ (List.cons_ne_nil _ _)⟩

theorem complete (coherent : s.Coherent) (unended : s.status.isTerminal = false)
    (p : Payload.MissionAuditCompleted) : (complete s p).Coherent where
  distinct := List.nodup_nil
  awaits := ⟨fun waiting => absurd rfl waiting, nofun⟩
  judged := ⟨fun _ => rfl, fun _ => rfl⟩
  failed := by
    have failure : (MissionAudit.complete s p).failure = none := (coherent.unsettled unended).2.1
    rw [failure]
    exact ⟨nofun, nofun⟩
  results uncompleted := absurd rfl uncompleted

theorem fail (coherent : s.Coherent) (unended : s.status.isTerminal = false)
    (p : Payload.MissionAuditFailed) : (fail s p).Coherent where
  distinct := List.nodup_nil
  awaits := ⟨fun waiting => absurd rfl waiting, nofun⟩
  judged := by
    have verdict : (MissionAudit.fail s p).verdict = none := (coherent.unsettled unended).1
    rw [verdict]
    exact ⟨nofun, nofun⟩
  failed := ⟨fun _ => rfl, fun _ => rfl⟩
  results _ := (coherent.unsettled unended).2.2

theorem step (coherent : s.Coherent) (e : Event) (x : Payload) : (step s e x).1.Coherent := by
  cases ended : s.status.isTerminal with
  | true =>
    unfold MissionAudit.step
    rw [if_pos ended]
    exact coherent
  | false =>
    -- Whether the audit counts as requested is of no consequence here.
    have requested : State.Coherent { s with requested := true } :=
      ⟨coherent.distinct, coherent.awaits, coherent.judged, coherent.failed, coherent.results⟩
    rw [step_unended ended]
    cases x with
    | missionAuditRequested p => exact coherent.request p
    | missionAuditStarted p => exact requested.commence p
    | missionAuditDecisionRequested p => exact requested.ask ended e p
    | missionAuditCompleted p => exact requested.complete ended p
    | missionAuditFailed p => exact requested.fail ended p
    | _ => exact coherent

end State.Coherent

theorem coherent_start : State.Coherent {} :=
  State.Unsettled.coherent ⟨rfl, rfl, rfl, rfl, rfl, rfl⟩ rfl List.nodup_nil
    ⟨fun waiting => absurd rfl waiting, nofun⟩

/-- The decisions that an audit waits for are distinct, and there are some exactly while it waits. A
    completed audit, and no other, has a verdict and what comes with it, and a failed one its failure. -/
theorem audit_coherent (log : List Event) : (projection.reduce log).state.Coherent := by
  rw [projection.reduce_state]
  exact projection.after_keeps State.Coherent (fun _ e x coherent => coherent.step e x) coherent_start _

/-- An audit waits for two decisions, and is then completed in one log and fails in another. -/
theorem audit_coherent_ends :
    let event (id : String) (clock : Nat) (eventType : String) (members : List (String × Json)) :=
      Event.plain id clock eventType (.object members)
    let asked := [event "e1" 1 "MissionAuditRequested" [], event "e2" 2 "MissionAuditStarted" [],
      event "e3" 3 "MissionAuditDecisionRequested" [("decision_id", .string "d1")],
      event "e4" 4 "MissionAuditDecisionRequested" [("decision_id", .string "d2")]]
    let waiting := (projection.reduce asked).state
    let completed := (projection.reduce (asked ++ [event "e5" 5 "MissionAuditCompleted"
      [("verdict", .string "pass"), ("findings_count", .nat 2)]])).state
    let failed := (projection.reduce (asked ++ [event "e5" 5 "MissionAuditFailed"
      [("error_code", .string "timeout")]])).state
    (waiting.Coherent ∧ waiting.status = .awaitingDecision ∧ waiting.asked = ["d1", "d2"] ∧
        waiting.verdict = none ∧ waiting.failure = none) ∧
      (completed.Coherent ∧ completed.status = .completed ∧ completed.verdict = some .pass ∧
        completed.findingsCount = 2 ∧ completed.pending = [] ∧ completed.failure = none) ∧
      failed.Coherent ∧ failed.status = .failed ∧ failed.failure = some ⟨"timeout", "", none⟩ ∧
        failed.pending = [] ∧ failed.verdict = none := by
  intro event asked waiting completed failed
  have state {log : List Event} (sorted : Event.Ascending log)
      (distinct : (log.map Event.id).Nodup) :
      (projection.reduce log).state = projection.after {} (projection.relevant log) := by
    rw [projection.reduce_state, Event.canonicalize_of_ascending sorted distinct]
    rfl
  refine ⟨⟨audit_coherent _, ?_⟩, ⟨audit_coherent _, ?_⟩, audit_coherent _, ?_⟩
  · dsimp only [waiting]
    rw [state (by decide) (by decide)]
    decide +kernel
  · dsimp only [completed]
    rw [state (by decide) (by decide)]
    decide +kernel
  · dsimp only [failed]
    rw [state (by decide) (by decide)]
    decide +kernel

end EventLedger.MissionAudit
