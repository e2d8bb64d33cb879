import EventLedger.Json.Decoder
import EventLedger.Payload.Values

/-! Payloads of glossary events. -/

namespace EventLedger.Payload

structure GlossaryScopeActivated where
  scopeId : String
  scopeType : Option String
deriving DecidableEq, Repr

namespace GlossaryScopeActivated

def record : Record GlossaryScopeActivated :=
  Record.of "GlossaryScopeActivated" mk
    |>.required "scope_id" .string
    |>.optional "scope_type" .string

def toJson (p : GlossaryScopeActivated) : Json :=
  .record [("scope_id", .string p.scopeId), ("scope_type", .text? p.scopeType)]

end GlossaryScopeActivated

structure GlossaryStrictnessSet where
  mode : Strictness
deriving DecidableEq, Repr

namespace GlossaryStrictnessSet

def record : Record GlossaryStrictnessSet :=
  Record.of "GlossaryStrictnessSet" mk
    |>.required "mode" Strictness.decoder

def toJson (p : GlossaryStrictnessSet) : Json :=
  .record [("mode", p.mode.toJson)]

end GlossaryStrictnessSet

structure TermCandidateObserved where
  term : String
  scopeId : String
  sourceStep : Option String
deriving DecidableEq, Repr

namespace TermCandidateObserved

def record : Record TermCandidateObserved :=
  Record.of "TermCandidateObserved" mk
    |>.required "term" .string
    |>.required "scope_id" .string
    |>.optional "source_step" .string

def toJson (p : TermCandidateObserved) : Json :=
  .record [("term", .string p.term), ("scope_id", .string p.scopeId),
    ("source_step", .text? p.sourceStep)]

end TermCandidateObserved

structure GlossarySenseUpdated where
  term : String
  scopeId : String
  senseId : String
  definition : String
deriving DecidableEq, Repr

namespace GlossarySenseUpdated

def record : Record GlossarySenseUpdated :=
  Record.of "GlossarySenseUpdated" mk
    |>.required "term" .string
    |>.required "scope_id" .string
    |>.required "sense_id" .string
    |>.defaulted "definition" .string ""

def toJson (p : GlossarySenseUpdated) : Json :=
  .record [("term", .string p.term), ("scope_id", .string p.scopeId),
    ("sense_id", .string p.senseId), ("definition", .string p.definition)]

end GlossarySenseUpdated

structure GlossaryClarificationRequested where
  clarificationId : String
  term : String
  question : String
deriving DecidableEq, Repr

namespace GlossaryClarificationRequested

def record : Record GlossaryClarificationRequested :=
  Record.of "GlossaryClarificationRequested" mk
    |>.required "clarification_id" .string
    |>.required "term" .string
    |>.defaulted "question" .string ""

def toJson (p : GlossaryClarificationRequested) : Json :=
  .record [("clarification_id", .string p.clarificationId), ("term", .string p.term),
    ("question", .string p.question)]

end GlossaryClarificationRequested

structure GlossaryClarificationResolved where
  clarificationId : String
  senseId : Option String
  answer : Option String
deriving DecidableEq, Repr

namespace GlossaryClarificationResolved

def record : Record GlossaryClarificationResolved :=
  Record.of "GlossaryClarificationResolved" mk
    |>.required "clarification_id" .string
    |>.optional "sense_id" .string
    |>.optional "answer" .string

def toJson (p : GlossaryClarificationResolved) : Json :=
  .record [("clarification_id", .string p.clarificationId), ("sense_id", .text? p.senseId),
    ("answer", .text? p.answer)]

end GlossaryClarificationResolved

structure SemanticCheckEvaluated where
  checkId : String
  outcome : CheckOutcome
  terms : List String
deriving DecidableEq, Repr

namespace SemanticCheckEvaluated

def record : Record SemanticCheckEvaluated :=
  Record.of "SemanticCheckEvaluated" mk
    |>.required "check_id" .string
    |>.required "outcome" CheckOutcome.decoder
    |>.defaulted "terms" .strings []

def toJson (p : SemanticCheckEvaluated) : Json :=
  .record [("check_id", .string p.checkId), ("outcome", p.outcome.toJson),
    ("terms", .strings p.terms)]

end SemanticCheckEvaluated

structure GenerationBlockedBySemanticConflict where
  stepId : String
  conflictingTerms : List String
deriving DecidableEq, Repr

namespace GenerationBlockedBySemanticConflict

def record : Record GenerationBlockedBySemanticConflict :=
  Record.of "GenerationBlockedBySemanticConflict" mk
    |>.required "step_id" .string
    |>.defaulted "conflicting_terms" .strings []

def toJson (p : GenerationBlockedBySemanticConflict) : Json :=
  .record [("step_id", .string p.stepId), ("conflicting_terms", .strings p.conflictingTerms)]

end GenerationBlockedBySemanticConflict

end EventLedger.Payload
