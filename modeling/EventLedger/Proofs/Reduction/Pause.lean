import EventLedger.Proofs.Reduction.Mission

/-! Why a mission is paused. Main statement: a reason is given for a mission that is not paused exactly
when the mission ended while one stood. -/

namespace EventLedger.Lifecycle

variable {s : State} {e : Event} {x : Payload} {events : List (Event × Payload)}

/-- The reason that an event leaves, if it pauses or resumes the mission. -/
def pausing? : Payload → Option (Option String)
  | .missionPaused p => some p.reason
  | .missionResumed _ => some none
  | _ => none

/-- The reason that the last pause gave, unless the mission was resumed since. -/
def standingReason (events : List (Event × Payload)) : Option String :=
  (events.filterMap fun y => pausing? y.2).getLast?.join

def untilEnd (events : List (Event × Payload)) : List (Event × Payload) :=
  events.takeWhile fun y => !endsMission y.2.kind

theorem pausing?_eq_none (ends : endsMission x.kind = true) : pausing? x = none := by
  cases x with
  | missionPaused p | missionResumed p => cases ends
  | _ => rfl

theorem proceed_pauseReason (s : State) (e : Event) (x : Payload) :
    (proceed s e x).1.pauseReason = (pausing? x).getD s.pauseReason := by
  cases x with
  | missionStarted p =>
    unfold proceed
    dsimp only
    split <;> rfl
  | _ => rfl

theorem step_pauseReason (s : State) (e : Event) (x : Payload) :
    (step s e x).1.pauseReason =
      if isTerminal s then s.pauseReason else (pausing? x).getD s.pauseReason := by
  rcases step_cases s e x with ⟨p, rfl, created⟩ | ⟨-, ended, refused⟩ | ⟨-, unended, made⟩
  · have kept : (create (named s e) p).1.pauseReason = s.pauseReason := by
      unfold create
      split <;> rfl
    rw [created, kept]
    exact (ite_self _).symm
  · rw [refused, if_pos ended]
    rfl
  · rw [made, if_neg (Bool.eq_false_iff.mp unended)]
    exact proceed_pauseReason (named s e) e x

/-- Up to its end a mission has the reason of its last pause, and it keeps that one from there on. -/
theorem after_pauseReason (unended : isTerminal s = false) (events : List (Event × Payload)) :
    (projection.after s events).pauseReason =
      ((untilEnd events).filterMap fun y => pausing? y.2).getLast?.getD s.pauseReason := by
  induction events generalizing s with
  | nil => rfl
  | cons y rest ih =>
    have status : isTerminal (projection.step s y.1 y.2).1 = endsMission y.2.kind := by
      have step := step_isTerminal s y.1 y.2
      rwa [unended, Bool.false_or] at step
    have reason : (projection.step s y.1 y.2).1.pauseReason =
        (pausing? y.2).getD s.pauseReason := by
      have step := step_pauseReason s y.1 y.2
      rwa [if_neg (Bool.eq_false_iff.mp unended)] at step
    rw [Projection.after_cons, untilEnd, List.takeWhile_cons]
    -- The event that ends the mission leaves the reason, and so does whatever follows it.
    cases ends : endsMission y.2.kind with
    | true =>
      rw [ends] at status
      rw [after_ended State.pauseReason (fun _ _ => rfl) status rest, reason, pausing?_eq_none ends]
      rfl
    | false =>
      rw [ends] at status
      rw [ih status, reason]
      simp only [Bool.not_false, if_true, List.filterMap_cons, untilEnd]
      cases pausing? y.2 with
      | none => rfl
      | some given =>
        rw [List.getLast?_cons]
        rfl

def Reasonable (s : State) : Prop :=
  s.pauseReason.isSome → s.status = some .paused ∨ isTerminal s = true

theorem Reasonable.create (reasonable : Reasonable s) (p : Payload.MissionCreated) :
    Reasonable (create s p).1 := by
  unfold Lifecycle.create
  split
  · exact reasonable
  · rename_i unknown
    intro given
    -- A mission without status has no reason that it could keep.
    rcases reasonable given with paused | ended
    · rw [paused] at unknown
      exact absurd rfl unknown
    · exact absurd (Option.not_isSome_iff_eq_none.mp unknown) (known_of_ended ended)

theorem Reasonable.proceed (reasonable : Reasonable s) (unended : isTerminal s = false) (e : Event)
    (x : Payload) : Reasonable (proceed s e x).1 := by
  have paused (given : s.pauseReason.isSome) : s.status = some .paused :=
    (reasonable given).resolve_right (Bool.eq_false_iff.mp unended)
  cases x with
  | missionStarted p =>
    unfold Lifecycle.proceed
    dsimp only
    split
    · exact reasonable
    · rename_i unstarted
      exact fun given => absurd (.inr (paused given)) unstarted
  | missionPaused p => exact fun _ => .inl rfl
  | missionResumed p => exact nofun
  | missionCompleted p | missionCancelled p => exact fun _ => .inr rfl
  | _ => exact fun given => .inl (paused given)

theorem Reasonable.step (reasonable : Reasonable s) (e : Event) (x : Payload) :
    Reasonable (step s e x).1 := by
  rcases step_cases s e x with ⟨p, rfl, created⟩ | ⟨-, -, refused⟩ | ⟨-, unended, made⟩
  · rw [created]
    exact Reasonable.create (s := named s e) reasonable p
  · rw [refused]
    exact reasonable
  · rw [made]
    exact Reasonable.proceed (s := named s e) reasonable unended e x

theorem after_reasonable (events : List (Event × Payload)) :
    Reasonable (projection.after {} events) := by
  have start : Reasonable {} := fun given => nomatch given
  exact projection.after_keeps Reasonable (fun _ e x reasonable => reasonable.step e x) start events

theorem isTerminal_iff_untilEnd (events : List (Event × Payload)) :
    isTerminal (projection.after {} events) = true ↔ untilEnd events ≠ events := by
  have ended : isTerminal (projection.after {} events) = events.any fun y => endsMission y.2.kind :=
    after_isTerminal {} events
  rw [ended, untilEnd, Ne, List.takeWhile_eq_self_iff]
  simp

theorem not_isTerminal_of_paused (paused : s.status = some .paused) : isTerminal s = false := by
  rw [isTerminal, paused]
  rfl

/-- The reason in a snapshot is that of the last pause before the mission ended, if it was not resumed.
    It comes with a mission that is paused, unless it stood when the mission ended: completion and
    cancellation leave it. -/
theorem paused_of_reason_iff (log : List Event) :
    let folded := projection.relevant (Event.canonicalize log)
    let ongoing := untilEnd folded
    let s := (projection.reduce log).state
    s.pauseReason = standingReason ongoing ∧
      (s.pauseReason.isSome → s.status = some .paused ∨ isTerminal s = true) ∧
      ((s.pauseReason.isSome → s.status = some .paused) ↔
        ongoing = folded ∨ standingReason ongoing = none) := by
  intro folded ongoing s
  have state : s = projection.after {} folded := projection.reduce_state log
  have reason : s.pauseReason = standingReason ongoing := by
    rw [state, after_pauseReason rfl, standingReason]
    cases ((untilEnd _).filterMap _).getLast? <;> rfl
  have reasonable : Reasonable s := state ▸ after_reasonable _
  have ended : isTerminal s = true ↔ ongoing ≠ folded := by
    rw [state]
    exact isTerminal_iff_untilEnd folded
  refine ⟨reason, reasonable, ?_, ?_⟩
  · intro claimed
    by_cases given : s.pauseReason.isSome
    · have unended := not_isTerminal_of_paused (claimed given)
      exact .inl (by_contra fun other => absurd (ended.mpr other) (Bool.eq_false_iff.mp unended))
    · rw [← reason]
      exact .inr (Option.not_isSome_iff_eq_none.mp given)
  · rintro (whole | nothing) given
    · exact (reasonable given).resolve_right fun closed => ended.mp closed whole
    · rw [reason, nothing] at given
      cases given

/-- A mission is cancelled while it is paused, which is one of its courses, and the reason stays. -/
theorem cancelled_keeps_reason :
    let log := [Event.plain "e1" 1 "MissionCreated" (.object [("mission_type", .string "research")]),
      Event.plain "e2" 2 "MissionStarted" (.object []),
      Event.plain "e3" 3 "MissionPaused" (.object [("reason", .string "waiting")]),
      Event.plain "e4" 4 "MissionCancelled" (.object [])]
    let s := projection.reduce log
    s.anomalies = [] ∧ s.state.status = some .cancelled ∧ s.state.pauseReason = some "waiting" ∧
      ¬ (s.state.pauseReason.isSome → s.state.status = some .paused) := by
  intro log s
  have sorted : Event.Ascending log := by decide
  have canonical : Event.canonicalize log = log := Event.canonicalize_of_ascending sorted (by decide)
  have quiet : s.anomalies = [] := by
    dsimp only [s]
    rw [projection.reduce_entries, canonical]
    decide +kernel
  have state : s.state.status = some .cancelled ∧ s.state.pauseReason = some "waiting" := by
    dsimp only [s]
    rw [projection.reduce_state, canonical]
    decide +kernel
  refine ⟨quiet, state.1, state.2, fun claimed => ?_⟩
  have paused := claimed (by rw [state.2]; rfl)
  rw [state.1] at paused
  cases paused

end EventLedger.Lifecycle
