import EventLedger.Proofs.GrowSet
import EventLedger.Proofs.Order.Canonical
import EventLedger.Proofs.Reduction.Entities
import EventLedger.Proofs.Reduction.Screening

/-! What can still happen to a connector that was decommissioned. Main statement: it is granted the
scopes that it is provisioned with again, and nothing else of it changes. -/

namespace EventLedger.Connector

/-- The scopes that a payload grants a connector. -/
def grant (k : String) : Payload → List String
  | .connectorProvisioned p => if p.connectorId = k then p.scopes else []
  | _ => []

/-- The scopes that some events grant a connector, in their order. -/
def granted (k : String) (events : List (Event × Payload)) : List String :=
  events.flatMap fun x => grant k x.2

variable {s : State} {e : Event} {k : String} {c : Connection}

theorem grant_other {x : Payload} (other : entity? x ≠ some k) : grant k x = [] := by
  cases x with
  | connectorProvisioned p => exact if_neg fun same => other (congrArg some same)
  | _ => rfl

theorem provision_known {p : Payload.ConnectorProvisioned}
    (known : connection? s p.connectorId = some c) :
    connection? (provision s e p).1 p.connectorId =
      some { c with scopes := c.scopes.extend p.scopes } := by
  unfold connection? at known ⊢
  unfold provision
  dsimp only
  rw [known]
  exact (Index.find?_insert _ _ _ _).trans (if_pos rfl)

theorem change_decommissioned (known : connection? s k = some c)
    (ended : c.status = .decommissioned) (x : Payload) :
    connection? (change s e k x).1 k = some c := by
  obtain ⟨f, refused⟩ : ∃ f, c.refusal? e x = some f := by
    unfold Connection.refusal?
    rw [ended]
    exact ⟨_, rfl⟩
  unfold connection? at known ⊢
  unfold change
  rw [known]
  dsimp only
  rw [refused]
  exact (Index.find?_insert _ _ _ _).trans (if_pos rfl)

/-- Of what names a decommissioned connector, only a provisioning is not refused. -/
theorem step_decommissioned (known : connection? s k = some c) (ended : c.status = .decommissioned)
    (x : Payload) :
    connection? (step s e x).1 k = some { c with scopes := c.scopes.extend (grant k x) } := by
  by_cases named : entity? x = some k
  · cases x with
    | connectorProvisioned p =>
      cases named
      rw [grant, if_pos rfl]
      exact provision_known known
    | connectorHealthChecked p => cases named; exact change_decommissioned known ended _
    | connectorDegraded p => cases named; exact change_decommissioned known ended _
    | connectorRecovered p => cases named; exact change_decommissioned known ended _
    | connectorRevoked p => cases named; exact change_decommissioned known ended _
    | connectorDecommissioned p => cases named; exact change_decommissioned known ended _
    | _ => cases named
  · rw [grant_other named]
    exact (connectors.record?_other named).trans known

theorem after_decommissioned (known : connection? s k = some c) (ended : c.status = .decommissioned)
    (later : List (Event × Payload)) :
    connection? (projection.after s later) k =
      some { c with scopes := c.scopes.extend (granted k later) } := by
  -- Each provisioning leaves another record, so the induction is over all that are decommissioned.
  induction later generalizing s c with
  | nil => exact known
  | cons x rest ih =>
    have stepped := step_decommissioned (e := x.1) known ended x.2
    rw [Projection.after_cons, granted, List.flatMap_cons, GrowSet.extend_append]
    exact ih stepped ended

/-- A decommissioned connector gains the scopes of the provisionings that still come for it. Nothing
    else of it changes, and it stays as it is exactly when they grant it nothing new. -/
theorem decommissioned_gains_scopes (known : connection? s k = some c)
    (ended : c.status = .decommissioned) (log : AnomalyLog) (later : List (Event × Payload)) :
    connection? (projection.fold s log later).1 k =
        some { c with scopes := c.scopes.extend (granted k later) } ∧
      (connection? (projection.fold s log later).1 k = some c ↔
        ∀ scope ∈ granted k later, c.scopes.contains scope) := by
  have after := after_decommissioned known ended later
  rw [Projection.fold_state, after]
  refine ⟨rfl, ?_⟩
  rw [← GrowSet.extend_eq_self_iff, Option.some_inj]
  exact ⟨congrArg Connection.scopes, fun same => by rw [same]⟩

theorem decommissioned_gains_scopes_provisioned :
    let provisioned (scope : String) : Payload := .connectorProvisioned ⟨"gh", "github", [scope]⟩
    let event (id : String) : Event := Event.plain id 1 "" (.object [])
    let s := (projection.fold {} (.empty .connector)
      [(event "e1", provisioned "repo"), (event "e2", .connectorDecommissioned ⟨"gh"⟩)]).1
    let c : Connection :=
      ⟨"gh", some "github", .decommissioned, .ofList ["repo"], 0, none, none, none, ⟨"e2"⟩⟩
    let after (scope : String) : Option Connection :=
      connection? (projection.fold s (.empty .connector) [(event "e3", provisioned scope),
        (event "e4", .connectorHealthChecked ⟨"gh", true, none⟩)]).1 "gh"
    connection? s "gh" = some c ∧ after "repo" = some c ∧
      after "admin" = some { c with scopes := c.scopes.extend ["admin"] } ∧
      after "admin" ≠ some c := by
  intro provisioned event s c after
  have known : connection? s "gh" = some c := rfl
  have gains (scope : String) := decommissioned_gains_scopes known rfl (.empty .connector)
    [(event "e3", provisioned scope), (event "e4", .connectorHealthChecked ⟨"gh", true, none⟩)]
  refine ⟨known, (gains "repo").2.mpr (by decide), (gains "admin").1, fun same => ?_⟩
  exact absurd ((gains "admin").2.mp same) (by decide)

/-- A second provisioning slips past the end: the decommissioned connector gains a scope. -/
theorem scope_granted_when_decommissioned :
    let provisioned (id : String) (clock : Nat) (scope : String) : Event :=
      Event.plain id clock "ConnectorProvisioned" (.object [("connector_id", .string "gh"),
        ("provider", .string "github"), ("scopes", .array [.string scope])])
    let gone (id : String) (clock : Nat) (eventType : String) : Event :=
      Event.plain id clock eventType (.object [("connector_id", .string "gh")])
    let log := [provisioned "e1" 1 "repo", gone "e2" 2 "ConnectorRevoked",
      gone "e3" 3 "ConnectorDecommissioned"]
    let longer := log ++ [provisioned "e4" 4 "admin"]
    let seen (events : List Event) : Option (ConnectorStatus × List String) :=
      (connection? (projection.reduce events).state "gh").map fun c => (c.status, c.scopes.toList)
    seen log = some (.decommissioned, ["repo"]) ∧
      seen longer = some (.decommissioned, ["admin", "repo"]) := by
  intro provisioned gone log longer seen
  have sorted : Event.Ascending longer := by decide
  have canonical : Event.canonicalize longer = longer :=
    Event.canonicalize_of_ascending sorted (by decide)
  have canonical' : Event.canonicalize log = log :=
    Event.canonicalize_of_ascending (List.pairwise_append.mp sorted).1 (by decide)
  dsimp only [seen]
  rw [Projection.reduce_state, Projection.reduce_state, canonical, canonical']
  decide +kernel

end EventLedger.Connector
