import EventLedger.GrowSet
import EventLedger.Reduction.Basic

namespace EventLedger.DecisionPoint

inductive DecisionStatus where
  | opened
  | discussing
  | resolved
  | overridden
deriving DecidableEq, Repr

namespace DecisionStatus

def name : DecisionStatus → String
  | .opened => "open"
  | .discussing => "discussing"
  | .resolved => "resolved"
  | .overridden => "overridden"

def isUnresolved : DecisionStatus → Bool
  | .opened | .discussing => true
  | _ => false

end DecisionStatus

structure Decision where
  decisionId : String
  title : String := ""
  options : List String := []
  authorityRole : Option String := none
  status : DecisionStatus := .opened
  participants : GrowSet := .empty
  chosenOption : Option String := none
  rationale : Option String := none
  resolvedBy : Option String := none
  overriddenBy : Option String := none
  overrideReason : Option String := none

namespace Decision

def toJson (d : Decision) : Json :=
  .object [("decision_id", .string d.decisionId), ("title", .string d.title),
    ("options", .strings d.options), ("authority_role", .text? d.authorityRole),
    ("status", .string d.status.name), ("participants", d.participants.toJson),
    ("chosen_option", .text? d.chosenOption), ("rationale", .text? d.rationale),
    ("resolved_by", .text? d.resolvedBy), ("overridden_by", .text? d.overriddenBy),
    ("override_reason", .text? d.overrideReason)]

def alreadyOverridden (d : Decision) : Finding :=
  ⟨.eventAfterTerminal, "Decision " ++ d.decisionId ++ " already overridden"⟩

def strayOption (d : Decision) (option : String) : List Finding :=
  if acceptsOption d.options option then []
  else [⟨.invalidOption, "'" ++ option ++ "' is not an option of decision " ++ d.decisionId⟩]

/-- A discussion. On a resolved decision it is odd, but still names its participant. -/
def discuss (d : Decision) (p : Payload.DecisionPointDiscussing) : Decision × List Finding :=
  let joined := { d with participants := d.participants.extend p.participant.toList }
  match d.status with
  | .overridden => (d, [d.alreadyOverridden])
  | .resolved =>
    (joined, [⟨.invalidTransition, "Decision " ++ d.decisionId ++ " discussed after resolution"⟩])
  | .opened | .discussing => ({ joined with status := .discussing }, [])

def resolve (d : Decision) (p : Payload.DecisionPointResolved) : Decision × List Finding :=
  match d.status with
  | .overridden => (d, [d.alreadyOverridden])
  | .resolved =>
    (d, [⟨.invalidTransition, "Decision " ++ d.decisionId ++ " resolved twice"⟩])
  | .opened | .discussing =>
    ({ d with
        status := .resolved, chosenOption := some p.chosenOption, rationale := p.rationale,
        resolvedBy := p.resolvedBy }, d.strayOption p.chosenOption)

def override (d : Decision) (p : Payload.DecisionPointOverridden) : Decision × List Finding :=
  let after :=
    { d with
      status := .overridden, chosenOption := some p.chosenOption, overriddenBy := p.overriddenBy,
      overrideReason := p.reason }
  match d.status with
  | .overridden => (d, [d.alreadyOverridden])
  | .resolved => (after, d.strayOption p.chosenOption)
  | .opened | .discussing =>
    (after,
      ⟨.invalidTransition, "Decision " ++ d.decisionId ++ " overridden before resolution"⟩ ::
        d.strayOption p.chosenOption)

end Decision

structure State where
  decisions : Index Decision := .empty

def openDecision (s : State) (p : Payload.DecisionPointOpened) : State × List Finding :=
  if s.decisions.contains p.decisionId then
    (s, [⟨.duplicateDecisionId, "Decision " ++ p.decisionId ++ " opened twice"⟩])
  else
    let d : Decision :=
      { decisionId := p.decisionId, title := p.title, options := p.options,
        authorityRole := p.authorityRole }
    (⟨s.decisions.insert p.decisionId d⟩, [])

def change (s : State) (e : Event) (id : String) (f : Decision → Decision × List Finding) :
    State × List Finding :=
  let (unopened, d) : List Finding × Decision :=
    match s.decisions.find? id with
    | some d => ([], d)
    | none =>
      ([⟨.eventBeforeOpened, e.eventType ++ " for unopened decision " ++ id⟩], { decisionId := id })
  let (d, found) := f d
  (⟨s.decisions.insert id d⟩, unopened ++ found)

def step (s : State) (e : Event) : Payload → State × List Finding
  | .decisionPointOpened p => openDecision s p
  | .decisionPointDiscussing p => change s e p.decisionId (·.discuss p)
  | .decisionPointResolved p => change s e p.decisionId (·.resolve p)
  | .decisionPointOverridden p => change s e p.decisionId (·.override p)
  | _ => (s, [])

def kinds : List Kind :=
  [.decisionPointOpened, .decisionPointDiscussing, .decisionPointResolved,
    .decisionPointOverridden]

def projection : Projection State := ⟨.decisionPoint, kinds, fun _ => {}, step⟩

namespace State

def unresolved (s : State) : List Decision := s.decisions.values.filter (·.status.isUnresolved)

def members (s : State) : List (String × Json) := [("decisions", s.decisions.toJson Decision.toJson)]

end State
end EventLedger.DecisionPoint
