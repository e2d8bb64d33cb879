import EventLedger.Proofs.Index
import EventLedger.Proofs.Reduction.Family
import EventLedger.Reduction

/-! The domains that keep a record for each work package, decision, connector or delivery. -/

namespace EventLedger
namespace Status

def wpId? : Payload → Option String
  | .wpStatusChanged c => some c.wpId
  | _ => none

def workPackage? (s : State) (k : String) : Option WorkPackage := s.workPackages.find? k

theorem apply_superseded (s : State) (e : Event) (c : Payload.WpStatusChanged) :
    (apply s e c).1.superseded = s.superseded := by
  unfold apply
  dsimp only
  split_ifs <;> rfl

theorem apply_other {s : State} {e : Event} {c : Payload.WpStatusChanged} {k : String}
    (other : c.wpId ≠ k) : workPackage? (apply s e c).1 k = workPackage? s k := by
  unfold apply workPackage?
  dsimp only
  split_ifs <;> simp only [Index.find?_insert, other, ↓reduceIte]

theorem apply_local {s t : State} {e : Event} {c : Payload.WpStatusChanged}
    (dismissed : s.superseded.contains e.id = t.superseded.contains e.id)
    (same : workPackage? s c.wpId = workPackage? t c.wpId) :
    workPackage? (apply s e c).1 c.wpId = workPackage? (apply t e c).1 c.wpId ∧
      (apply s e c).2 = (apply t e c).2 := by
  unfold workPackage? at same
  unfold apply workPackage?
  rw [dismissed, same]
  dsimp only
  split_ifs <;> simp only [Index.find?_insert, same, ↓reduceIte, and_self]

/-- A work package is moved by the changes that name it and were not superseded. -/
def workPackages : Family projection WorkPackage where
  names := wpId?
  record? := workPackage?
  dismissed s e := s.superseded.contains e.id
  names_kind {x k} named := by cases x <;> simp_all [wpId?, Payload.kind, projection, kinds]
  record?_start _ _ := rfl
  dismissed_step s e x := by
    cases x with
    | wpStatusChanged c => simp only [projection, step, apply_superseded]
    | _ => rfl
  record?_other {s e x k} other := by
    cases x with
    | wpStatusChanged c => exact apply_other fun same => other (congrArg some same)
    | _ => rfl
  step_local {s t e x k} named dismissed same := by
    cases x with
    | wpStatusChanged c =>
      cases named
      exact apply_local dismissed same
    | _ => cases named

end Status

namespace DecisionPoint

def decisionId? : Payload → Option String
  | .decisionPointOpened p => some p.decisionId
  | .decisionPointDiscussing p => some p.decisionId
  | .decisionPointResolved p => some p.decisionId
  | .decisionPointOverridden p => some p.decisionId
  | _ => none

def decision? (s : State) (k : String) : Option Decision := s.decisions.find? k

theorem openDecision_other {s : State} {p : Payload.DecisionPointOpened} {k : String}
    (other : p.decisionId ≠ k) : decision? (openDecision s p).1 k = decision? s k := by
  unfold openDecision decision?
  split_ifs <;> simp only [Index.find?_insert, other, ↓reduceIte]

theorem openDecision_local {s t : State} {p : Payload.DecisionPointOpened}
    (same : decision? s p.decisionId = decision? t p.decisionId) :
    decision? (openDecision s p).1 p.decisionId = decision? (openDecision t p).1 p.decisionId ∧
      (openDecision s p).2 = (openDecision t p).2 := by
  unfold decision? at same
  unfold openDecision decision? Index.contains
  rw [same]
  split_ifs <;> simp only [Index.find?_insert, same, ↓reduceIte, and_self]

theorem change_other {s : State} {e : Event} {id k : String} (other : id ≠ k)
    (f : Decision → Decision × List Finding) :
    decision? (change s e id f).1 k = decision? s k := by
  unfold change decision?
  cases s.decisions.find? id <;> simp only [Index.find?_insert, other, ↓reduceIte]

theorem change_local {s t : State} {e : Event} {id : String}
    (same : decision? s id = decision? t id) (f : Decision → Decision × List Finding) :
    decision? (change s e id f).1 id = decision? (change t e id f).1 id ∧
      (change s e id f).2 = (change t e id f).2 := by
  unfold decision? at same
  unfold change decision?
  rw [same]
  cases t.decisions.find? id <;> simp only [Index.find?_insert, ↓reduceIte, and_self]

def decisions : Family projection Decision where
  names := decisionId?
  record? := decision?
  dismissed _ _ := false
  names_kind {x k} named := by cases x <;> simp_all [decisionId?, Payload.kind, projection, kinds]
  record?_start _ _ := rfl
  dismissed_step _ _ _ := rfl
  record?_other {s e x k} other := by
    cases x with
    | decisionPointOpened p => exact openDecision_other fun same => other (congrArg some same)
    | decisionPointDiscussing p => exact change_other (fun same => other (congrArg some same)) _
    | decisionPointResolved p => exact change_other (fun same => other (congrArg some same)) _
    | decisionPointOverridden p => exact change_other (fun same => other (congrArg some same)) _
    | _ => rfl
  step_local {s t e x k} named _ same := by
    cases x with
    | decisionPointOpened p => cases named; exact openDecision_local same
    | decisionPointDiscussing p => cases named; exact change_local same _
    | decisionPointResolved p => cases named; exact change_local same _
    | decisionPointOverridden p => cases named; exact change_local same _
    | _ => cases named

end DecisionPoint

namespace Connector

/-- The connector that a payload names, that of a provisioning too. -/
def entity? : Payload → Option String
  | .connectorProvisioned p => some p.connectorId
  | p => connectorId? p

def connection? (s : State) (k : String) : Option Connection := s.connectors.find? k

theorem provision_other {s : State} {e : Event} {p : Payload.ConnectorProvisioned} {k : String}
    (other : p.connectorId ≠ k) : connection? (provision s e p).1 k = connection? s k := by
  unfold provision connection?
  dsimp only
  split <;> simp only [Index.find?_insert, other, ↓reduceIte]

theorem provision_local {s t : State} {e : Event} {p : Payload.ConnectorProvisioned}
    (same : connection? s p.connectorId = connection? t p.connectorId) :
    connection? (provision s e p).1 p.connectorId = connection? (provision t e p).1 p.connectorId ∧
      (provision s e p).2 = (provision t e p).2 := by
  unfold connection? at same
  unfold provision connection?
  dsimp only
  rw [same]
  split <;> simp only [Index.find?_insert, ↓reduceIte, and_self]

theorem change_other {s : State} {e : Event} {id k : String} (other : id ≠ k) (p : Payload) :
    connection? (change s e id p).1 k = connection? s k := by
  unfold change connection?
  dsimp only
  split <;> simp only [Index.find?_insert, other, ↓reduceIte]

theorem change_local {s t : State} {e : Event} {id : String}
    (same : connection? s id = connection? t id) (p : Payload) :
    connection? (change s e id p).1 id = connection? (change t e id p).1 id ∧
      (change s e id p).2 = (change t e id p).2 := by
  unfold connection? at same
  unfold change connection?
  rw [same]
  dsimp only
  split <;> simp only [Index.find?_insert, ↓reduceIte, and_self]

def connectors : Family projection Connection where
  names := entity?
  record? := connection?
  dismissed _ _ := false
  names_kind {x k} named := by
    cases x <;> simp_all [entity?, connectorId?, Payload.kind, projection, kinds]
  record?_start _ _ := rfl
  dismissed_step _ _ _ := rfl
  record?_other {s e x k} other := by
    cases x with
    | connectorProvisioned p => exact provision_other fun same => other (congrArg some same)
    | connectorHealthChecked p => exact change_other (fun same => other (congrArg some same)) _
    | connectorDegraded p => exact change_other (fun same => other (congrArg some same)) _
    | connectorRecovered p => exact change_other (fun same => other (congrArg some same)) _
    | connectorRevoked p => exact change_other (fun same => other (congrArg some same)) _
    | connectorDecommissioned p => exact change_other (fun same => other (congrArg some same)) _
    | _ => rfl
  step_local {s t e x k} named _ same := by
    cases x with
    | connectorProvisioned p => cases named; exact provision_local same
    | connectorHealthChecked p => cases named; exact change_local same _
    | connectorDegraded p => cases named; exact change_local same _
    | connectorRecovered p => cases named; exact change_local same _
    | connectorRevoked p => cases named; exact change_local same _
    | connectorDecommissioned p => cases named; exact change_local same _
    | _ => cases named

end Connector

namespace Sync

def deliveryId? : Payload → Option String
  | .syncIngestAccepted p => some p.deliveryId
  | .syncIngestRejected p => some p.deliveryId
  | .syncRetryScheduled p => some p.deliveryId
  | .syncDeadLettered p => some p.deliveryId
  | _ => none

def delivery? (s : State) (k : String) : Option Delivery := s.deliveries.find? k

theorem change_other {s : State} {e : Event} {id k : String} (other : id ≠ k)
    (status : DeliveryStatus) (f : Option Delivery → Delivery → Delivery × List Finding) :
    delivery? (change s e id status f).1 k = delivery? s k := by
  unfold change delivery?
  dsimp only
  split_ifs <;> simp only [Index.find?_insert, other, ↓reduceIte]

theorem change_local {s t : State} {e : Event} {id : String}
    (same : delivery? s id = delivery? t id) (status : DeliveryStatus)
    (f : Option Delivery → Delivery → Delivery × List Finding) :
    delivery? (change s e id status f).1 id = delivery? (change t e id status f).1 id ∧
      (change s e id status f).2 = (change t e id status f).2 := by
  unfold delivery? at same
  unfold change delivery?
  rw [same]
  dsimp only
  split_ifs <;> simp only [Index.find?_insert, same, ↓reduceIte, and_self]

def deliveries : Family projection Delivery where
  names := deliveryId?
  record? := delivery?
  dismissed _ _ := false
  names_kind {x k} named := by cases x <;> simp_all [deliveryId?, Payload.kind, projection, kinds]
  record?_start _ _ := rfl
  dismissed_step _ _ _ := rfl
  record?_other {s e x k} other := by
    cases x with
    | syncIngestAccepted p => exact change_other (fun same => other (congrArg some same)) _ _
    | syncIngestRejected p => exact change_other (fun same => other (congrArg some same)) _ _
    | syncRetryScheduled p => exact change_other (fun same => other (congrArg some same)) _ _
    | syncDeadLettered p => exact change_other (fun same => other (congrArg some same)) _ _
    | _ => rfl
  step_local {s t e x k} named _ same := by
    cases x with
    | syncIngestAccepted p => cases named; exact change_local same _ _
    | syncIngestRejected p => cases named; exact change_local same _ _
    | syncRetryScheduled p => cases named; exact change_local same _ _
    | syncDeadLettered p => cases named; exact change_local same _ _
    | _ => cases named

end Sync
end EventLedger
