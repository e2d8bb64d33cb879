import EventLedger.Proofs.Reduction.Accounting
import EventLedger.Proofs.Reduction.Isolation

/-! Who drives a session, and what becomes of its comments. Main statement: only those who have joined
drive it, and each comment counts for its author or is flagged. -/

namespace EventLedger

/-- Where each event that counts adds one to a measure or is found odd, the ids tell which of the
    anomalies stand for the events that are missing from the measure. -/
theorem Projection.after_flagged {σ : Type} (p : Projection σ) (measure : σ → Nat)
    (odd : AnomalyKind → Bool) (Counts : Payload → Prop) [DecidablePred Counts]
    (step : ∀ s e x, measure (p.step s e x).1 +
        (if Counts x then (p.step s e x).2.countP (fun f => odd f.kind) else 0) =
      measure s + if Counts x then 1 else 0)
    (s : σ) {events : List (Event × Payload)} (distinct : (events.map (·.1.id)).Nodup) :
    measure (p.after s events) + (p.findings s events).flatten.countP (fun a =>
        odd a.kind && decide (a.eventId ∈ (events.filter fun y => Counts y.2).map (·.1.id))) =
      measure s + events.countP fun y => Counts y.2 := by
  let ids := (events.filter fun y => Counts y.2).map (·.1.id)
  have listed (y : Event × Payload) (member : y ∈ events) : Counts y.2 ↔ y.1.id ∈ ids := by
    constructor
    · intro counts
      exact List.mem_map_of_mem (List.mem_filter.mpr ⟨member, decide_eq_true counts⟩)
    · intro present
      obtain ⟨z, kept, same⟩ := List.mem_map.mp present
      obtain ⟨here, counts⟩ := List.mem_filter.mp kept
      rw [← List.inj_on_of_nodup_map distinct here member same]
      exact of_decide_eq_true counts
  refine p.after_balance measure _ Counts
    (fun s y (_ : True) (fits : Counts y.2 ↔ y.1.id ∈ ids) => ⟨trivial, ?_⟩) trivial listed
  have now := step s y.1 y.2
  rw [List.countP_map]
  by_cases counts : Counts y.2
  · have same : (fun a : Anomaly => odd a.kind && decide (a.eventId ∈ ids)) ∘ Anomaly.about y.1 =
        fun f => odd f.kind := by
      funext f
      simp [Anomaly.about, fits.mp counts]
    rw [if_pos counts] at now
    rw [same]
    exact now
  · have none : (fun a : Anomaly => odd a.kind && decide (a.eventId ∈ ids)) ∘ Anomaly.about y.1 =
        fun _ => false := by
      funext f
      simp [Anomaly.about, mt fits.mpr counts]
    rw [if_neg counts] at now
    rw [none, List.countP_false]
    exact now

namespace Collaboration

variable {s : State} {e : Event} {x : Payload} {k : String} {p q : Participant}

def participant? (s : State) (k : String) : Option Participant := s.participants.find? k

theorem participant?_set (s : State) (k : String) (p : Participant) (j : String) :
    participant? (setParticipant s k p) j = if k = j then some p else participant? s j :=
  s.participants.find?_insert k j p

def named (s : State) (e : Event) : State :=
  { s with sessionId := s.sessionId.or (some e.aggregateId) }

/-- All that a change of a participant can do. -/
theorem change_cases (s : State) (e : Event) (k : String) (f : Participant → Participant) :
    (∃ p, participant? s k = some p ∧ p.presence = .joined ∧
      change s e k f = (setParticipant s k (f p), [])) ∨
    ∃ found : Finding, (found.kind = .unknownParticipant ∨ found.kind = .participantNotJoined) ∧
      change s e k f = (s, [found]) := by
  unfold change participant?
  cases s.participants.find? k with
  | none => exact .inr ⟨_, .inl rfl, rfl⟩
  | some p =>
    by_cases joined : p.presence = .joined
    · exact .inl ⟨p, rfl, joined, if_pos joined⟩
    · exact .inr ⟨_, .inr rfl, if_neg joined⟩

/-- What is true of the participant with an id, wherever they are. -/
structure Participant.Sound (p : Participant) (k : String) : Prop where
  named : p.participantId = k
  idle : p.presence ≠ .joined → p.driveIntent = none ∧ p.focus = none

def State.Sound (s : State) : Prop := ∀ k p, participant? s k = some p → p.Sound k

namespace State.Sound

theorem set (sound : s.Sound) (new : p.Sound k) : (setParticipant s k p).Sound := by
  intro j q known
  rw [participant?_set] at known
  split at known
  · rename_i same
    cases known
    exact same ▸ new
  · exact sound j q known

theorem met (sound : s.Sound) (fresh : q.Sound k) : ((participant? s k).getD q).Sound k := by
  cases known : participant? s k with
  | none => exact fresh
  | some p => exact sound k p known

theorem invite (sound : s.Sound) (i : Payload.ParticipantInvited) : (invite s i).Sound := by
  have met := sound.met (q := { participantId := i.participantId, presence := .invited })
    ⟨rfl, fun _ => ⟨rfl, rfl⟩⟩
  exact sound.set ⟨met.named, met.idle⟩

theorem join (sound : s.Sound) (j : Payload.ParticipantJoined) : (join s j).Sound := by
  have met := sound.met (q := { participantId := j.participantId, presence := .joined })
    ⟨rfl, fun absent => absurd rfl absent⟩
  exact sound.set ⟨met.named, fun absent => absurd rfl absent⟩

theorem change (sound : s.Sound) (e : Event) {f : Participant → Participant}
    (keeps : ∀ p, p.presence = .joined → p.Sound k → (f p).Sound k) : (change s e k f).1.Sound := by
  rcases change_cases s e k f with ⟨p, known, joined, changed⟩ | ⟨found, -, refused⟩
  · rw [changed]
    exact sound.set (keeps p joined (sound k p known))
  · rw [refused]
    exact sound

theorem step (sound : s.Sound) (e : Event) (x : Payload) : (step s e x).1.Sound := by
  have known : (named s e).Sound := sound
  have counted : State.Sound { named s e with commentCount := s.commentCount + 1 } := sound
  cases x with
  | participantInvited i => exact known.invite i
  | participantJoined j => exact known.join j
  | participantLeft l => exact known.change e fun p _ sound => ⟨sound.named, fun _ => ⟨rfl, rfl⟩⟩
  | driveIntentSet i | focusChanged i =>
    exact known.change e fun p joined sound => ⟨sound.named, fun absent => absurd joined absent⟩
  | commentPosted c => exact counted.change e fun p _ sound => ⟨sound.named, sound.idle⟩
  | warningRaised w =>
    unfold Collaboration.step warn
    dsimp only
    split <;> exact known
  | warningAcknowledged a =>
    unfold Collaboration.step acknowledge
    dsimp only
    split <;> exact known
  | _ => exact known

end State.Sound

theorem sound_start : State.Sound {} := by
  intro k p known
  cases known

theorem sound_reduce (log : List Event) : (projection.reduce log).state.Sound := by
  rw [projection.reduce_state]
  exact projection.after_keeps State.Sound (fun _ e x sound => sound.step e x) sound_start _

/-- The participants who drive are the names under which they stand. -/
theorem activeDrivers_eq (sound : s.Sound) :
    s.activeDrivers = s.participants.names.filter fun k => (participant? s k).any (·.isDriving) :=
  Index.map_filter_values (fun k p known => (sound k p known).named) _

theorem mem_activeDrivers (sound : s.Sound) :
    k ∈ s.activeDrivers ↔
      ∃ p, participant? s k = some p ∧ p.presence = .joined ∧ p.driveIntent = some .active := by
  rw [activeDrivers_eq sound, List.mem_filter, Index.mem_names, Option.any_eq_true]
  constructor
  · rintro ⟨-, p, known, driving⟩
    have both : p.presence = .joined ∧ p.driveIntent = some .active := by
      simpa [Participant.isDriving] using driving
    exact ⟨p, known, both⟩
  · rintro ⟨p, known, joined, active⟩
    exact ⟨Option.isSome_of_eq_some known, p, known, by simp [Participant.isDriving, joined, active]⟩

/-- The comments that count for a participant. -/
def credit (s : State) (k : String) : Nat := ((participant? s k).map (·.comments)).getD 0

def State.credits (s : State) : Nat := (s.participants.values.map (·.comments)).sum

theorem credit_known (known : participant? s k = some p) : credit s k = p.comments := by
  rw [credit, known]
  rfl

theorem credit_set (s : State) (k : String) (p : Participant) (j : String) :
    credit (setParticipant s k p) j = if k = j then p.comments else credit s j := by
  unfold credit
  rw [participant?_set]
  split <;> rfl

theorem credits_set (s : State) (k : String) (p : Participant) :
    (setParticipant s k p).credits + credit s k = s.credits + p.comments :=
  s.participants.sum_values_insert k p (·.comments)

/-- No comment is gained or lost from one state to another. -/
structure SameCredit (s t : State) : Prop where
  each : ∀ k, credit t k = credit s k
  total : t.credits = s.credits

theorem sameCredit_set (same : p.comments = credit s k) : SameCredit s (setParticipant s k p) := by
  constructor
  · intro j
    rw [credit_set]
    split
    · rename_i here
      rw [same, here]
    · rfl
  · have total := credits_set s k p
    omega

theorem comments_met (fresh : q.comments = 0) :
    ((participant? s k).getD q).comments = credit s k := by
  unfold credit
  cases participant? s k with
  | none => exact fresh
  | some p => rfl

theorem sameCredit_change (s : State) (e : Event) (k : String) {f : Participant → Participant}
    (keeps : ∀ p, (f p).comments = p.comments) : SameCredit s (change s e k f).1 := by
  rcases change_cases s e k f with ⟨p, known, -, changed⟩ | ⟨found, -, refused⟩
  · rw [changed]
    exact sameCredit_set ((keeps p).trans (credit_known known).symm)
  · rw [refused]
    exact ⟨fun _ => rfl, rfl⟩

theorem step_uncommented (s : State) (e : Event) (other : x.kind ≠ .commentPosted) :
    SameCredit s (step s e x).1 := by
  suffices same : SameCredit (named s e) (step s e x).1 from ⟨same.each, same.total⟩
  cases x with
  | participantInvited i => exact sameCredit_set (comments_met (by rfl))
  | participantJoined j => exact sameCredit_set (comments_met (by rfl))
  | participantLeft l => exact sameCredit_change (f := leave) _ e _ fun _ => rfl
  | driveIntentSet i =>
    exact sameCredit_change (f := fun p => { p with driveIntent := some i.intent }) _ e _ fun _ => rfl
  | focusChanged c =>
    exact sameCredit_change (f := fun p => { p with focus := some c.focusTarget }) _ e _ fun _ => rfl
  | commentPosted c => exact absurd rfl other
  | warningRaised w =>
    unfold step warn
    dsimp only
    split <;> exact ⟨fun _ => rfl, rfl⟩
  | warningAcknowledged a =>
    unfold step acknowledge
    dsimp only
    split <;> exact ⟨fun _ => rfl, rfl⟩
  | _ => exact ⟨fun _ => rfl, rfl⟩

/-- Who posted a comment. -/
def author? : Payload → Option String
  | .commentPosted c => some c.participantId
  | _ => none

/-- The kinds of anomaly that say why a comment counts for nobody. -/
def flags (k : AnomalyKind) : Bool := decide (k = .unknownParticipant ∨ k = .participantNotJoined)

theorem kind_of_author (posted : author? x = some k) : x.kind = .commentPosted := by
  cases x with
  | commentPosted c => rfl
  | _ => cases posted

/-- A comment counts for its author, or else it is flagged, once. -/
theorem step_comment (s : State) (e : Event) (c : Payload.CommentPosted) :
    ((step s e (.commentPosted c)).2 = [] ∧
      (∀ k, credit (step s e (.commentPosted c)).1 k =
        credit s k + if c.participantId = k then 1 else 0) ∧
      (step s e (.commentPosted c)).1.credits = s.credits + 1) ∨
    ∃ found : Finding, flags found.kind = true ∧ (step s e (.commentPosted c)).2 = [found] ∧
      SameCredit s (step s e (.commentPosted c)).1 := by
  let counted := { named s e with commentCount := s.commentCount + 1 }
  let post (p : Participant) : Participant := { p with comments := p.comments + 1 }
  have stepped : step s e (.commentPosted c) = change counted e c.participantId post := rfl
  rw [stepped]
  rcases change_cases counted e c.participantId post with
    ⟨p, known, -, changed⟩ | ⟨found, flagged, refused⟩
  · have before : credit s c.participantId = p.comments := credit_known known
    have total := credits_set counted c.participantId (post p)
    have each (k : String) := credit_set counted c.participantId (post p) k
    rw [changed]
    refine .inl ⟨rfl, fun k => ?_, ?_⟩
    · rw [each]
      by_cases here : c.participantId = k
      · rw [if_pos here, if_pos here, ← here, before]
      · rw [if_neg here, if_neg here]
        rfl
    · have same : credit counted c.participantId = p.comments := before
      have sum : counted.credits = s.credits := rfl
      have more : (post p).comments = p.comments + 1 := rfl
      show (setParticipant counted c.participantId (post p)).credits = s.credits + 1
      omega
  · rw [refused]
    exact .inr ⟨found, decide_eq_true flagged, rfl, ⟨fun _ => rfl, rfl⟩⟩

theorem step_commentCount (s : State) (e : Event) (x : Payload) :
    (step s e x).1.commentCount =
      s.commentCount + if x.kind = .commentPosted then 1 else 0 := by
  have changed (t : State) (k : String) (f : Participant → Participant) :
      (change t e k f).1.commentCount = t.commentCount := by
    rcases change_cases t e k f with ⟨p, -, -, changed⟩ | ⟨found, -, refused⟩
    · rw [changed]
      rfl
    · rw [refused]
  cases x with
  | participantLeft l => exact changed (named s e) _ leave
  | driveIntentSet i => exact changed (named s e) _ fun p => { p with driveIntent := some i.intent }
  | focusChanged c => exact changed (named s e) _ fun p => { p with focus := some c.focusTarget }
  | commentPosted c =>
    exact changed { named s e with commentCount := s.commentCount + 1 } _ fun p =>
      { p with comments := p.comments + 1 }
  | warningRaised w =>
    unfold step warn
    dsimp only
    split <;> rfl
  | warningAcknowledged a =>
    unfold step acknowledge
    dsimp only
    split <;> rfl
  | _ => rfl

theorem step_credits (s : State) (e : Event) (x : Payload) :
    (step s e x).1.credits +
        (if x.kind = .commentPosted then (step s e x).2.countP (fun f => flags f.kind) else 0) =
      s.credits + if x.kind = .commentPosted then 1 else 0 := by
  by_cases posted : x.kind = .commentPosted
  · cases x with
    | commentPosted c =>
      rcases step_comment s e c with ⟨quiet, -, total⟩ | ⟨found, flagged, recorded, same⟩
      · rw [quiet, total]
        rfl
      · rw [recorded, same.total, List.countP_singleton, flagged]
        rfl
    | _ => cases posted
  · rw [if_neg posted, if_neg posted, (step_uncommented s e posted).total]

theorem step_credit (k : String) (s : State) (e : Event) (x : Payload) :
    credit (step s e x).1 k +
        (if author? x = some k then (step s e x).2.countP (fun f => flags f.kind) else 0) =
      credit s k + if author? x = some k then 1 else 0 := by
  by_cases posted : x.kind = .commentPosted
  · cases x with
    | commentPosted c =>
      have author : author? (.commentPosted c) = some k ↔ c.participantId = k := Option.some_inj
      simp only [author]
      rcases step_comment s e c with ⟨quiet, each, -⟩ | ⟨found, flagged, recorded, same⟩
      · rw [quiet, each, List.countP_nil, ite_self]
        rfl
      · rw [recorded, same.each, List.countP_singleton, flagged]
        rfl
    | _ => cases posted
  · have unposted : author? x ≠ some k := mt kind_of_author posted
    rw [if_neg unposted, if_neg unposted, (step_uncommented s e posted).each]

/-- Whatever is flagged was found by the fold. -/
theorem countP_flagged (log : List Event) (ids : List EventId) :
    ((projection.reduce log).anomalies.countP fun a =>
      (a.kind = .unknownParticipant ∨ a.kind = .participantNotJoined) ∧ a.eventId ∈ ids) =
    (projection.findings {} (projection.relevant (Event.canonicalize log))).flatten.countP fun a =>
      flags a.kind && decide (a.eventId ∈ ids) := by
  have same : (fun a : Anomaly => decide ((a.kind = .unknownParticipant ∨
      a.kind = .participantNotJoined) ∧ a.eventId ∈ ids)) =
        fun a => flags a.kind && decide (a.eventId ∈ ids) :=
    funext fun a => Bool.decide_and _ _
  have unscreened (a : Anomaly) (odd : (flags a.kind && decide (a.eventId ∈ ids)) = true) :
      ¬ a.kind.IsScreened := by
    have kinds := of_decide_eq_true (Bool.and_eq_true_iff.mp odd).1
    rcases kinds with kind | kind <;> rw [kind] <;> decide
  rw [same, List.countP_eq_length_filter, List.countP_eq_length_filter]
  exact congrArg List.length (Domain.filter_folded .collaboration log unscreened)

theorem length_remarks_le (log : List Event) {y : Event × Payload}
    (folded : y ∈ projection.relevant (Event.canonicalize log)) (posted : y.2.kind = .commentPosted) :
    ((projection.reduce log).anomalies.countP fun a => a.eventId = y.1.id) ≤ 1 := by
  obtain ⟨e, x⟩ := y
  obtain ⟨before, later, split⟩ := List.append_of_mem folded
  rw [List.countP_eq_length_filter, projection.anomalies_about split, List.length_map]
  cases x with
  | commentPosted c =>
    rcases step_comment (projection.after {} before) e c with ⟨quiet, -, -⟩ | ⟨found, -, recorded, -⟩
    · exact (congrArg List.length quiet).trans_le (Nat.zero_le 1)
    · exact (congrArg List.length recorded).le
  | _ => cases posted

/-- Whoever has not joined has no drive intent and no focus, and the active drivers are those who have
    joined and mean to drive, in ascending order. Every comment that is folded is counted, and it counts
    for its author, or else it is flagged, once, as one of nobody who has joined. -/
theorem comments_attributed_or_flagged (log : List Event) :
    let folded := projection.relevant (Event.canonicalize log)
    let s := projection.reduce log
    let participants := s.state.participants
    let comments := folded.filter fun y => y.2.kind = .commentPosted
    let flagged (ys : List (Event × Payload)) := s.anomalies.countP fun a =>
      (a.kind = .unknownParticipant ∨ a.kind = .participantNotJoined) ∧ a.eventId ∈ ys.map (·.1.id)
    (∀ k p, participants.find? k = some p → p.presence ≠ .joined →
        p.driveIntent = none ∧ p.focus = none) ∧
      s.state.activeDrivers.Pairwise (· < ·) ∧
      (∀ k, k ∈ s.state.activeDrivers ↔
        ∃ p, participants.find? k = some p ∧ p.presence = .joined ∧ p.driveIntent = some .active) ∧
      s.state.commentCount = comments.length ∧
      s.state.commentCount = (participants.values.map (·.comments)).sum + flagged comments ∧
      (∀ k, let own := folded.filter fun y => author? y.2 = some k
        ((participants.find? k).map (·.comments)).getD 0 + flagged own = own.length) ∧
      ∀ y ∈ comments, flagged [y] ≤ 1 := by
  intro folded s participants comments flagged
  have sound : s.state.Sound := sound_reduce log
  have state : s.state = projection.after {} folded := projection.reduce_state log
  have distinct : (folded.map (·.1.id)).Nodup :=
    projection.nodup_relevant (Event.canonicalize_ids_nodup log)
  have found (ys : List (Event × Payload)) : flagged ys =
      (projection.findings {} folded).flatten.countP fun a =>
        flags a.kind && decide (a.eventId ∈ ys.map (·.1.id)) := countP_flagged log _
  have count : s.state.commentCount = comments.length := by
    rw [state, ← List.countP_eq_length_filter]
    exact (projection.after_count (·.commentCount) (fun x => x.kind = .commentPosted)
      step_commentCount {} folded).trans (Nat.zero_add _)
  have total : s.state.credits + flagged comments = comments.length := by
    rw [found, state, ← List.countP_eq_length_filter]
    exact (projection.after_flagged State.credits flags (fun x => x.kind = .commentPosted)
      step_credits {} distinct).trans (Nat.zero_add _)
  refine ⟨fun k p known => (sound k p known).idle, ?_, fun k => mem_activeDrivers sound, count, ?_,
    fun k => ?_, fun y member => ?_⟩
  · rw [activeDrivers_eq sound]
    exact participants.names_ascending.filter _
  · rw [count, ← total]
    rfl
  · have own := projection.after_flagged (credit · k) flags (fun x => author? x = some k)
      (step_credit k) {} distinct
    dsimp only
    rw [found, ← List.countP_eq_length_filter]
    rw [← state] at own
    exact own.trans (Nat.zero_add _)
  · obtain ⟨present, posted⟩ := List.mem_filter.mp member
    calc flagged [y]
        ≤ s.anomalies.countP fun a => a.eventId = y.1.id :=
          List.countP_mono_left fun a _ odd => by simpa using (of_decide_eq_true odd).2
      _ ≤ 1 := length_remarks_le log present (of_decide_eq_true posted)

/-- One participant drives and comments, another leaves while driving and comments after that, and a
    stranger comments too. -/
theorem comments_attributed_or_flagged_strangers :
    let about (id : String) (clock : Nat) (eventType who : String) (more : List (String × Json)) :=
      Event.plain id clock eventType (.object (more ++ [("participant_id", .string who)]))
    let log := [about "e1" 1 "ParticipantJoined" "ana" [], about "e2" 2 "ParticipantJoined" "bo" [],
      about "e3" 3 "DriveIntentSet" "ana" [("intent", .string "active")],
      about "e4" 4 "DriveIntentSet" "bo" [("intent", .string "active")],
      about "e5" 5 "ParticipantLeft" "bo" [],
      about "e6" 6 "CommentPosted" "ana" [("comment_id", .string "c1")],
      about "e7" 7 "CommentPosted" "bo" [("comment_id", .string "c2")],
      about "e8" 8 "CommentPosted" "ghost" [("comment_id", .string "c3")]]
    let folded := projection.relevant (Event.canonicalize log)
    let s := projection.reduce log
    let comments := folded.filter fun y => y.2.kind = .commentPosted
    let flagged (ys : List (Event × Payload)) := s.anomalies.countP fun a =>
      (a.kind = .unknownParticipant ∨ a.kind = .participantNotJoined) ∧ a.eventId ∈ ys.map (·.1.id)
    let bo : Participant := { participantId := "bo", presence := .left }
    s.state.participants.find? "bo" = some bo ∧ bo.presence ≠ .joined ∧ bo.driveIntent = none ∧
      "ana" ∈ s.state.activeDrivers ∧ comments.length = 3 ∧
      comments.length = (s.state.participants.values.map (·.comments)).sum + flagged comments ∧
      flagged comments = 2 ∧ ∀ y ∈ comments, flagged [y] ≤ 1 := by
  intro about log folded s comments flagged bo
  have sorted : Event.Ascending log := by decide
  have canonical : Event.canonicalize log = log := Event.canonicalize_of_ascending sorted (by decide)
  have known : s.state.participants.find? "bo" = some bo := by
    dsimp only [s]
    rw [projection.reduce_state, canonical]
    decide +kernel
  have three : comments.length = 3 := by
    dsimp only [comments, folded]
    rw [canonical]
    decide +kernel
  have credited : (s.state.participants.values.map (·.comments)).sum = 1 := by
    dsimp only [s]
    rw [projection.reduce_state, canonical]
    decide +kernel
  let driver : Participant :=
    { participantId := "ana", presence := .joined, driveIntent := some .active, comments := 1 }
  have ana : s.state.participants.find? "ana" = some driver := by
    dsimp only [s]
    rw [projection.reduce_state, canonical]
    decide +kernel
  obtain ⟨idle, -, drives, count, total, -, once⟩ := comments_attributed_or_flagged log
  have gone : bo.presence ≠ .joined := by decide
  have sum : comments.length = (s.state.participants.values.map (·.comments)).sum +
      flagged comments := count.symm.trans total
  refine ⟨known, gone, (idle "bo" bo known gone).1, (drives "ana").mpr ⟨_, ana, rfl, rfl⟩, three, sum,
    ?_, once⟩
  rw [three, credited] at sum
  omega

end Collaboration
end EventLedger
