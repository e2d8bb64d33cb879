import EventLedger.Proofs.Catalog
import EventLedger.Proofs.Reduction.Folding
import EventLedger.Reduction

/-! What is screened out before a fold, and what the fold adds to it. -/

namespace EventLedger
namespace AnomalyKind

/-- Given to an event that never reaches the fold. -/
def IsScreened (k : AnomalyKind) : Prop := k = .malformedPayload ∨ k = .unrecognizedEventType

instance (k : AnomalyKind) : Decidable k.IsScreened := inferInstanceAs (Decidable (_ ∨ _))

end AnomalyKind

namespace AnomalyLog

theorem foldl_count_entries (log : AnomalyLog) (samples : List Metrics.Sample) :
    (samples.foldl count log).entries = log.entries := by
  induction samples generalizing log with
  | nil => rfl
  | cons sample samples ih => exact ih _

end AnomalyLog

namespace Sifted

theorem finding?_isScreened {d : Domain} {e : Event} {s : Sifted} {f : Finding}
    (found : s.finding? d e = some f) : f.kind.IsScreened := by
  cases s with
  | malformed k r => rw [← Option.some.inj found]; exact .inl rfl
  | unrecognized => rw [← Option.some.inj found]; exact .inr rfl
  | relevant p => cases found
  | foreign => cases found

end Sifted

namespace Projection

variable {σ : Type} (p : Projection σ)

def sift (e : Event) : Sifted := .ofEvent p.domain p.kinds e

/-- What an event is screened out for, if it is. -/
def complaint? (e : Event) : Option Anomaly :=
  ((p.sift e).finding? p.domain e).map (.about e)

theorem screen_entries (events : List Event) :
    (p.screen events).entries = events.filterMap p.complaint? := by
  rw [screen]
  induction events using List.reverseRecOn with
  | nil => rfl
  | append_singleton events e ih =>
    rw [List.foldl_concat, List.filterMap_append, ← ih]
    have last : p.complaint? e =
        ((Sifted.ofEvent p.domain p.kinds e).finding? p.domain e).map (.about e) := rfl
    cases found : (Sifted.ofEvent p.domain p.kinds e).finding? p.domain e with
    | none =>
      rw [found, Option.map_none] at last
      simp only [found, Option.elim_none, AnomalyLog.foldl_count_entries, List.filterMap_cons, last,
        List.filterMap_nil, List.append_nil]
    | some f =>
      rw [found, Option.map_some] at last
      simp only [found, Option.elim_some, AnomalyLog.record_entries,
        AnomalyLog.foldl_count_entries, List.filterMap_cons, last, List.filterMap_nil]

/-- The anomaly is what a step of the fold finds in one of the events, in whatever state. -/
def Reported (events : List (Event × Payload)) (a : Anomaly) : Prop :=
  ∃ x ∈ events, ∃ s, ∃ f ∈ (p.step s x.1 x.2).2, a = .about x.1 f

theorem reported_of_mem_findings {s : σ} {events : List (Event × Payload)} {a : Anomaly}
    (found : a ∈ (p.findings s events).flatten) : p.Reported events a := by
  induction events generalizing s with
  | nil => exact absurd found List.not_mem_nil
  | cons x rest ih =>
    rw [findings_cons, List.flatten_cons] at found
    rcases List.mem_append.mp found with now | later
    · obtain ⟨f, reported, rfl⟩ := List.mem_map.mp now
      exact ⟨x, List.mem_cons_self, s, f, reported, rfl⟩
    · obtain ⟨y, present, reported⟩ := ih later
      exact ⟨y, List.mem_cons_of_mem _ present, reported⟩

theorem reduce_state (events : List Event) :
    (p.reduce events).state =
      p.after (p.start (p.relevant (Event.canonicalize events)))
        (p.relevant (Event.canonicalize events)) :=
  p.fold_state _ _ _

theorem reduce_entries (events : List Event) :
    (p.reduce events).anomalies =
      (Event.canonicalize events).filterMap p.complaint? ++
        (p.findings (p.start (p.relevant (Event.canonicalize events)))
          (p.relevant (Event.canonicalize events))).flatten := by
  rw [← screen_entries]
  exact p.fold_entries _ _ _

theorem reduce_anomalies (events : List Event) :
    ∃ found : List Anomaly,
      (p.reduce events).anomalies =
        (Event.canonicalize events).filterMap p.complaint? ++ found ∧
      ∀ a ∈ found, p.Reported (p.relevant (Event.canonicalize events)) a :=
  ⟨_, p.reduce_entries events, fun _ found => p.reported_of_mem_findings found⟩

end Projection
end EventLedger
