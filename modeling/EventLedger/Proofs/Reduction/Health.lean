import EventLedger.Proofs.Reduction.Decommissioned
import Mathlib.Data.List.DropRight

/-! How often a connector failed. Main statement: it shows the checks that failed since it was last well,
of those that came before it was taken out of service. -/

namespace EventLedger.Connector

variable {s : State} {e : Event} {x : Payload} {k : String} {c : Connection}
  {mine : List (Event × Payload)} {y : Event × Payload} {n : Nat}

/-- Events after which a connector is well. -/
def restores : Payload → Bool
  | .connectorHealthChecked p => p.healthy
  | .connectorRecovered _ => true
  | _ => false

def fails : Payload → Bool
  | .connectorHealthChecked p => !p.healthy
  | _ => false

/-- A connector is served until it is revoked or decommissioned, also before it is known. -/
def State.serves (s : State) (k : String) : Bool := (s.statusOf? k).all ConnectorStatus.isUsable

/-- The events of a connector that come from a state on while it is served. -/
def served (k : String) : State → List (Event × Payload) → List (Event × Payload)
  | _, [] => []
  | s, y :: rest =>
    (if entity? y.2 = some k ∧ s.serves k then [y] else []) ++ served k (step s y.1 y.2).1 rest

/-- How many checks failed since the last event that restores the connector. -/
def failures (mine : List (Event × Payload)) : Nat :=
  (mine.rtakeWhile fun y => !restores y.2).countP fun y => fails y.2

theorem failures_concat (mine : List (Event × Payload)) (y : Event × Payload) :
    failures (mine ++ [y]) =
      if restores y.2 then 0 else failures mine + if fails y.2 then 1 else 0 := by
  rw [failures, List.rtakeWhile_concat]
  cases restores y.2 with
  | true => rfl
  | false => exact List.countP_append.trans (congrArg _ List.countP_singleton)

namespace Connection

/-- What a connector shows after a number of failures. -/
structure Shows (c : Connection) (n : Nat) : Prop where
  counted : c.consecutiveFailures = min greatestWord32 n
  healthy : c.status = .healthy → c.consecutiveFailures = 0 ∧ c.degradedReason = none
  failing : c.consecutiveFailures ≠ 0 →
    c.status = .degraded ∨ c.status = .revoked ∨ c.status = .decommissioned

theorem shows_unprovisioned (id : String) (eventId : EventId) : (unprovisioned id eventId).Shows 0 :=
  ⟨rfl, nofun, fun some => absurd rfl some⟩

theorem increment_min (n : Nat) : increment (min greatestWord32 n) = min greatestWord32 (n + 1) := by
  unfold increment
  omega

theorem Shows.checkHealth (shows : c.Shows n) (p : Payload.ConnectorHealthChecked) :
    (c.checkHealth p).Shows (if p.healthy then 0 else n + 1) := by
  unfold Connection.checkHealth
  split
  · exact ⟨rfl, fun _ => ⟨rfl, rfl⟩, fun some => absurd rfl some⟩
  · have counted : increment c.consecutiveFailures = min greatestWord32 (n + 1) := by
      rw [shows.counted, increment_min]
    exact ⟨counted, nofun, fun _ => .inl rfl⟩

theorem Shows.proceed (shows : c.Shows n) (x : Payload) :
    (c.proceed x).1.Shows (if restores x then 0 else n + if fails x then 1 else 0) := by
  cases x with
  | connectorHealthChecked p =>
    have checked := shows.checkHealth p
    rw [restores, fails]
    cases well : p.healthy <;> rw [well] at checked <;> exact checked
  | connectorRecovered p => exact ⟨rfl, fun _ => ⟨rfl, rfl⟩, fun some => absurd rfl some⟩
  | connectorDegraded p => exact ⟨shows.counted, nofun, fun _ => .inl rfl⟩
  | connectorRevoked p => exact ⟨shows.counted, nofun, fun _ => .inr (.inl rfl)⟩
  | connectorDecommissioned p => exact ⟨shows.counted, nofun, fun _ => .inr (.inr rfl)⟩
  | _ => exact shows

theorem refusal?_usable (usable : c.status.isUsable = true) (e : Event) (x : Payload) :
    c.refusal? e x = none := by
  unfold refusal?
  cases status : c.status <;> rw [status] at usable <;> first | rfl | cases usable

/-- Out of service nothing but a decommissioning is let through. -/
theorem decommissions_of_unrefused (retired : c.status.isUsable = false)
    (unrefused : c.refusal? e x = none) : ∃ p, x = .connectorDecommissioned p := by
  unfold refusal? at unrefused
  cases status : c.status with
  | provisioned | healthy | degraded => rw [status] at retired; cases retired
  | decommissioned => rw [status] at unrefused; cases unrefused
  | revoked =>
    rw [status] at unrefused
    cases x with
    | connectorDecommissioned p => exact ⟨p, rfl⟩
    | _ => cases unrefused

end Connection

/-- The connector that an event meets, new if it is not known yet. -/
def met (s : State) (e : Event) (k : String) : Connection :=
  (connection? s k).getD (.unprovisioned k e.id)

theorem serves_eq (s : State) (e : Event) (k : String) : s.serves k = (met s e k).status.isUsable := by
  unfold State.serves State.statusOf? met connection?
  cases s.connectors.find? k <;> rfl

theorem provision_unknown {p : Payload.ConnectorProvisioned} (unknown : connection? s p.connectorId = none)
    (e : Event) : connection? (provision s e p).1 p.connectorId =
      some { Connection.unprovisioned p.connectorId e.id with
        provider := some p.provider, scopes := .ofList p.scopes } := by
  unfold connection? at unknown ⊢
  unfold provision
  dsimp only
  rw [unknown]
  exact Index.find?_insert_self _ _ _

theorem provision_met (s : State) (e : Event) (p : Payload.ConnectorProvisioned) :
    ∃ provider scopes, connection? (provision s e p).1 p.connectorId =
      some { met s e p.connectorId with provider, scopes } := by
  unfold met
  cases known : connection? s p.connectorId with
  | none => exact ⟨_, _, provision_unknown known e⟩
  | some c => exact ⟨c.provider, _, provision_known known⟩

theorem change_met (s : State) (e : Event) (k : String) (x : Payload) :
    connection? (change s e k x).1 k =
      some (((met s e k).refusal? e x).elim { ((met s e k).proceed x).1 with lastEventId := e.id }
        fun _ => met s e k) := by
  unfold change met connection?
  cases s.connectors.find? k with
  | none =>
    dsimp only [Option.getD_none]
    cases (Connection.unprovisioned k e.id).refusal? e x <;>
      exact Index.find?_insert_self _ _ _
  | some c =>
    dsimp only [Option.getD_some]
    cases c.refusal? e x <;> exact Index.find?_insert_self _ _ _

def Shown (mine : List (Event × Payload)) : Option Connection → Prop
  | none => mine = []
  | some c => c.Shows (failures mine)

theorem Shown.met (shown : Shown mine (connection? s k)) (e : Event) :
    (met s e k).Shows (failures mine) := by
  unfold Connector.met
  cases known : connection? s k with
  | none =>
    rw [known] at shown
    rw [show mine = [] from shown]
    exact Connection.shows_unprovisioned k e.id
  | some c =>
    rw [known] at shown
    exact shown

theorem shown_change (shown : Shown mine (connection? s k)) (y : Event × Payload) :
    Shown (mine ++ if s.serves k then [y] else []) (connection? (change s y.1 k y.2).1 k) := by
  have shows := shown.met y.1
  rw [change_met, serves_eq s y.1 k]
  cases usable : (met s y.1 k).status.isUsable with
  | true =>
    have proceeded := shows.proceed y.2
    rw [← failures_concat] at proceeded
    rw [Connection.refusal?_usable usable]
    exact ⟨proceeded.counted, proceeded.healthy, proceeded.failing⟩
  | false =>
    rw [if_neg Bool.false_ne_true, List.append_nil]
    cases refused : (met s y.1 k).refusal? y.1 y.2 with
    | some f => exact shows
    | none =>
      obtain ⟨p, gone⟩ := Connection.decommissions_of_unrefused usable refused
      rw [gone]
      exact ⟨shows.counted, nofun, fun _ => .inr (.inr rfl)⟩

theorem shown_provision {p : Payload.ConnectorProvisioned} (e : Event)
    (shown : Shown mine (connection? s p.connectorId)) :
    Shown (mine ++ if s.serves p.connectorId then [(e, .connectorProvisioned p)] else [])
      (connection? (provision s e p).1 p.connectorId) := by
  have shows := shown.met e
  obtain ⟨provider, scopes, made⟩ := provision_met s e p
  have same : failures (mine ++ if s.serves p.connectorId then [(e, .connectorProvisioned p)] else []) =
      failures mine := by
    split
    · exact failures_concat _ _
    · rw [List.append_nil]
  rw [made, Shown, same]
  exact ⟨shows.counted, shows.healthy, shows.failing⟩

theorem shown_step (named : entity? y.2 = some k) (shown : Shown mine (connection? s k)) :
    Shown (mine ++ if s.serves k then [y] else []) (connection? (step s y.1 y.2).1 k) := by
  obtain ⟨e, x⟩ := y
  cases x with
  | connectorProvisioned p => cases named; exact shown_provision e shown
  | connectorHealthChecked p => cases named; exact shown_change shown _
  | connectorDegraded p => cases named; exact shown_change shown _
  | connectorRecovered p => cases named; exact shown_change shown _
  | connectorRevoked p => cases named; exact shown_change shown _
  | connectorDecommissioned p => cases named; exact shown_change shown _
  | _ => cases named

theorem shown_after (shown : Shown mine (connection? s k)) (events : List (Event × Payload)) :
    Shown (mine ++ served k s events) (connection? (projection.after s events) k) := by
  -- Which of the events count depends on the states between them, so the induction is over all states.
  induction events generalizing s mine with
  | nil => exact (List.append_nil mine).symm ▸ shown
  | cons y rest ih =>
    rw [Projection.after_cons, served, ← List.append_assoc]
    by_cases named : entity? y.2 = some k
    · simp only [named, true_and]
      exact ih (shown_step named shown)
    · have same : connection? (step s y.1 y.2).1 k = connection? s k := connectors.record?_other named
      rw [if_neg fun both => named both.1, List.append_nil]
      exact ih (same ▸ shown)

/-- A connector's failures are the checks that failed since its last healthy check or recovery, of the
    events that were folded for it while it was neither revoked nor decommissioned. A healthy one has
    none, and no reason to be degraded. -/
theorem failures_since_well (log : List Event)
    (known : connection? (projection.reduce log).state k = some c) :
    c.consecutiveFailures = min (2 ^ 32 - 1)
        (failures (served k {} (projection.relevant (Event.canonicalize log)))) ∧
      (c.status = .healthy → c.consecutiveFailures = 0 ∧ c.degradedReason = none) ∧
      (c.consecutiveFailures ≠ 0 →
        c.status = .degraded ∨ c.status = .revoked ∨ c.status = .decommissioned) := by
  have start : Shown [] (connection? {} k) := rfl
  have shown := shown_after start (projection.relevant (Event.canonicalize log))
  have state : (projection.reduce log).state =
      projection.after {} (projection.relevant (Event.canonicalize log)) := projection.reduce_state log
  rw [← state, known] at shown
  exact ⟨shown.counted, shown.healthy, shown.failing⟩

/-- A connector fails three times, is well after the first, and is revoked before a last failed check. -/
theorem failures_since_well_revoked :
    let about (id : String) (clock : Nat) (eventType connector : String) (more : List (String × Json)) :=
      Event.plain id clock eventType (.object (("connector_id", .string connector) :: more))
    let checked (id : String) (clock : Nat) (connector : String) (healthy : Bool) :=
      about id clock "ConnectorHealthChecked" connector [("healthy", .bool healthy)]
    let log := [checked "e1" 1 "gh" false, checked "e2" 2 "gh" true, checked "e3" 3 "gh" false,
      checked "e4" 4 "jira" false, checked "e5" 5 "gh" false, about "e6" 6 "ConnectorRevoked" "gh" [],
      checked "e7" 7 "gh" false]
    ∃ c, connection? (projection.reduce log).state "gh" = some c ∧ c.status = .revoked ∧
      2 = min (2 ^ 32 - 1)
        (failures (served "gh" {} (projection.relevant (Event.canonicalize log)))) ∧
      (c.status = .degraded ∨ c.status = .revoked ∨ c.status = .decommissioned) := by
  intro about checked log
  have sorted : Event.Ascending log := by decide
  have canonical : Event.canonicalize log = log := Event.canonicalize_of_ascending sorted (by decide)
  have seen : (connection? (projection.reduce log).state "gh").map
      (fun c => (c.status, c.consecutiveFailures)) = some (.revoked, 2) := by
    rw [projection.reduce_state, canonical]
    decide +kernel
  obtain ⟨c, known, shown⟩ := Option.map_eq_some_iff.mp seen
  obtain ⟨status, two⟩ := Prod.mk.inj shown
  obtain ⟨counted, -, failing⟩ := failures_since_well log known
  have some : c.consecutiveFailures ≠ 0 := by
    rw [two]
    decide
  exact ⟨c, known, status, two ▸ counted, failing some⟩

end EventLedger.Connector
