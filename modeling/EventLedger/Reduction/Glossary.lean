import EventLedger.GrowSet
import EventLedger.Reduction.Basic
import EventLedger.Text.Lowercase

namespace EventLedger.Glossary

structure Term where
  term : String
  observations : Nat := 0
  sourceSteps : GrowSet := .empty
  senses : Index String := .empty

def Term.toJson (t : Term) : Json :=
  .object [("term", .string t.term), ("observations", .nat t.observations),
    ("source_steps", t.sourceSteps.toJson), ("senses", t.senses.toJson .string)]

structure Clarification where
  clarificationId : String
  term : String
  question : String
  senseId : Option String := none
  answer : Option String := none
deriving DecidableEq, Repr

def Clarification.toJson (c : Clarification) : Json :=
  .object [("clarification_id", .string c.clarificationId), ("term", .string c.term),
    ("question", .string c.question), ("sense_id", .text? c.senseId), ("answer", .text? c.answer)]

structure Tally where
  pass : Nat := 0
  warn : Nat := 0
  block : Nat := 0
deriving DecidableEq, Repr

namespace Tally

def add (t : Tally) : CheckOutcome → Tally
  | .pass => { t with pass := t.pass + 1 }
  | .warn => { t with warn := t.warn + 1 }
  | .block => { t with block := t.block + 1 }

def toJson (t : Tally) : Json :=
  .object [("pass", .nat t.pass), ("warn", .nat t.warn), ("block", .nat t.block)]

end Tally

structure BlockedGeneration where
  stepId : String
  conflictingTerms : List String
  eventId : EventId
deriving DecidableEq, Repr

def BlockedGeneration.toJson (b : BlockedGeneration) : Json :=
  .object [("step_id", .string b.stepId), ("conflicting_terms", .strings b.conflictingTerms),
    ("event_id", .string b.eventId.text)]

/-- Terms are kept by scope, and in a scope by their text in small letters. -/
structure State where
  activeScopes : Index (Option String) := .empty
  strictness : Strictness := .medium
  terms : Index (Index Term) := .empty
  pending : Index Clarification := .empty
  resolved : Index Clarification := .empty
  checks : Tally := {}
  blocked : List BlockedGeneration := []

/-- Changes a term of a scope. A scope that was never activated is odd, but serves. -/
def changeTerm (s : State) (e : Event) (scopeId term : String) (f : Term → Term) :
    State × List Finding :=
  let key := Text.lowercase term
  let scope := (s.terms.find? scopeId).getD .empty
  let known := (scope.find? key).getD { term }
  ({ s with terms := s.terms.insert scopeId (scope.insert key (f known)) },
    if s.activeScopes.contains scopeId then []
    else [⟨.scopeNotActive, e.eventType ++ " in inactive scope " ++ scopeId⟩])

def request (s : State) (p : Payload.GlossaryClarificationRequested) : State × List Finding :=
  let id := p.clarificationId
  if s.pending.contains id || s.resolved.contains id then
    (s, [⟨.duplicateClarificationId, "Clarification " ++ id ++ " requested twice"⟩])
  else
    let c : Clarification := { clarificationId := id, term := p.term, question := p.question }
    ({ s with pending := s.pending.insert id c }, [])

def resolve (s : State) (p : Payload.GlossaryClarificationResolved) : State × List Finding :=
  match s.pending.find? p.clarificationId with
  | none =>
    (s, [⟨.unknownClarification,
      "Resolution for unknown or settled clarification " ++ p.clarificationId⟩])
  | some c =>
    ({ s with
        pending := s.pending.erase p.clarificationId
        resolved := s.resolved.insert c.clarificationId
          { c with senseId := p.senseId, answer := p.answer } }, [])

def step (s : State) (e : Event) : Payload → State × List Finding
  | .glossaryScopeActivated p =>
    ({ s with activeScopes := s.activeScopes.insert p.scopeId p.scopeType }, [])
  | .glossaryStrictnessSet p => ({ s with strictness := p.mode }, [])
  | .termCandidateObserved p =>
    changeTerm s e p.scopeId p.term fun t =>
      { t with
        observations := t.observations + 1
        sourceSteps := t.sourceSteps.extend p.sourceStep.toList }
  | .glossarySenseUpdated p =>
    changeTerm s e p.scopeId p.term fun t =>
      { t with senses := t.senses.insert p.senseId p.definition }
  | .glossaryClarificationRequested p => request s p
  | .glossaryClarificationResolved p => resolve s p
  | .semanticCheckEvaluated p => ({ s with checks := s.checks.add p.outcome }, [])
  | .generationBlockedBySemanticConflict p =>
    ({ s with blocked := s.blocked ++ [⟨p.stepId, p.conflictingTerms, e.id⟩] }, [])
  | _ => (s, [])

def kinds : List Kind :=
  [.glossaryScopeActivated, .glossaryStrictnessSet, .termCandidateObserved, .glossarySenseUpdated,
    .glossaryClarificationRequested, .glossaryClarificationResolved, .semanticCheckEvaluated,
    .generationBlockedBySemanticConflict]

def projection : Projection State := ⟨.glossary, kinds, fun _ => {}, step⟩

namespace State

def term? (s : State) (scopeId term : String) : Option Term :=
  (s.terms.find? scopeId).bind fun scope => scope.find? (Text.lowercase term)

def isBlocked (s : State) : Bool :=
  s.strictness != .off && (!s.pending.isEmpty || !s.blocked.isEmpty)

def members (s : State) : List (String × Json) :=
  [("active_scopes", s.activeScopes.toJson .text?), ("strictness", s.strictness.toJson),
    ("terms", s.terms.toJson (·.toJson Term.toJson)),
    ("pending_clarifications", s.pending.toJson Clarification.toJson),
    ("resolved_clarifications", s.resolved.toJson Clarification.toJson),
    ("checks", s.checks.toJson),
    ("blocked_generations", .array (s.blocked.map BlockedGeneration.toJson))]

end State
end EventLedger.Glossary
