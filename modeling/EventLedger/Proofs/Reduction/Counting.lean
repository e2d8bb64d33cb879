import EventLedger.Proofs.Metrics
import EventLedger.Proofs.Reduction.Accounting

/-! What a reduction counts, beside the snapshot that it gives. -/

namespace EventLedger

open Metrics

/-- Errors are counted where they are made, also those that end up in the text of an anomaly. -/
def Metrics.Sample.isError : Sample → Bool
  | .error _ => true
  | _ => false

namespace AnomalyLog

/-- Errors apart, a log has counted each of its entries once, in their order. -/
structure CountsEntries (log : AnomalyLog) (d : Domain) : Prop where
  domain : log.domain = d
  samples : (log.samples.filter fun s => !s.isError) = log.entries.map fun a => .anomaly d a.kind

variable {log : AnomalyLog} {d : Domain}

theorem CountsEntries.empty (d : Domain) : (AnomalyLog.empty d).CountsEntries d := ⟨rfl, rfl⟩

theorem CountsEntries.record (counts : log.CountsEntries d) (e : Event) (f : Finding) :
    (log.record e f).CountsEntries d := by
  refine ⟨counts.domain, ?_⟩
  rw [record_entries, List.map_append, ← counts.samples, ← counts.domain]
  exact List.filter_append _ _

theorem CountsEntries.recordAll (counts : log.CountsEntries d) (e : Event) (fs : List Finding) :
    (log.recordAll e fs).CountsEntries d := by
  induction fs generalizing log with
  | nil => exact counts
  | cons f fs ih => exact ih (counts.record e f)

theorem CountsEntries.count {s : Sample} (counts : log.CountsEntries d) (error : s.isError = true) :
    (log.count s).CountsEntries d := by
  refine ⟨counts.domain, ?_⟩
  have kept : (log.count s).entries = log.entries := rfl
  rw [kept, ← counts.samples, AnomalyLog.count, List.filter_append]
  simp [error]

theorem CountsEntries.countAll {samples : List Sample} (counts : log.CountsEntries d)
    (errors : ∀ s ∈ samples, s.isError = true) :
    (samples.foldl AnomalyLog.count log).CountsEntries d := by
  induction samples generalizing log with
  | nil => exact counts
  | cons s samples ih =>
    obtain ⟨error, errors⟩ := List.forall_mem_cons.mp errors
    exact ih (counts.count error) errors

end AnomalyLog

/-- Before the fold, only errors are counted that refuse a payload. -/
theorem Sifted.samples_errors (s : Sifted) : ∀ sample ∈ s.samples, sample.isError = true := by
  intro sample member
  cases s with
  | malformed k r =>
    cases r with
    | unknownLane raw =>
      rw [List.mem_singleton.mp member]
      rfl
    | _ => cases member
  | _ => cases member

namespace Projection

variable {σ : Type} (p : Projection σ)

theorem screen_countsEntries (canonical : List Event) :
    (p.screen canonical).CountsEntries p.domain := by
  rw [screen]
  induction canonical using List.reverseRecOn with
  | nil => exact .empty p.domain
  | append_singleton events e ih =>
    rw [List.foldl_concat]
    have counted := ih.countAll (Sifted.samples_errors (.ofEvent p.domain p.kinds e))
    cases found : (Sifted.ofEvent p.domain p.kinds e).finding? p.domain e with
    | none => simpa only [found, Option.elim_none] using counted
    | some f => simpa only [found, Option.elim_some] using counted.record e f

theorem fold_countsEntries {log : AnomalyLog} {d : Domain} (counts : log.CountsEntries d) (s : σ)
    (events : List (Event × Payload)) : (p.fold s log events).2.CountsEntries d := by
  induction events generalizing s log with
  | nil => exact counts
  | cons x rest ih => exact ih (counts.recordAll x.1 (p.step s x.1 x.2).2) _

end Projection

/-- What a reduction of a domain counts, errors apart: each of its anomalies, itself, and the copies that
    it dropped, if any. -/
def Snapshot.samples {σ : Type} (s : Snapshot σ) (d : Domain) (dropped : Nat) : List Sample :=
  (s.anomalies.map fun a => .anomaly d a.kind) ++
    ([.reduction d, .folded d s.eventCount] ++
      if 0 < dropped then [.duplicates d dropped] else [])

theorem Projection.run_samples {σ : Type} (p : Projection σ) (events : List Event) :
    ((p.run events).2.filter fun s => !s.isError) =
      (p.reduce events).samples p.domain (events.length - (events.map Event.id).dedup.length) := by
  have counts := p.fold_countsEntries (p.screen_countsEntries (Event.canonicalize events))
    (p.start (p.relevant (Event.canonicalize events))) (p.relevant (Event.canonicalize events))
  have parts : (p.run events).2 = _ ++ [_, _] ++ _ := rfl
  rw [parts, List.append_assoc, List.filter_append, counts.samples, Domain.length_canonicalize]
  refine congrArg (_ ++ ·) ?_
  split
  · rfl
  · rfl

namespace Snapshot

variable {σ : Type} (s : Snapshot σ) (d : Domain) (dropped : Nat)

theorem ofSeries_anomalies (as : List Anomaly) (k : AnomalyKind) :
    ofSeries (.anomalies d k) (as.map fun a => .anomaly d a.kind) =
      (as.filter fun a => a.kind = k).map fun a => .anomaly d a.kind := by
  rw [ofSeries, List.filter_map]
  refine congrArg (List.map _) (List.filter_congr fun a _ => ?_)
  simp [Sample.series, Sample.effect, Effect.series, Series.anomalies,
    AnomalyKind.name_injective.eq_iff]

theorem samples_anomalies (k : AnomalyKind) :
    ofSeries (.anomalies d k) (s.samples d dropped) =
      (s.ofKind k).map fun a => .anomaly d a.kind := by
  rw [samples, ofSeries_append, ofSeries_anomalies]
  split <;> simp [ofSeries, Sample.series, Effect.series, Sample.effect, Series.anomalies, ofKind]

theorem samples_whole {series : Series} (other : series.metric ≠ "missionlog_anomalies_total") :
    ofSeries series (s.samples d dropped) =
      ofSeries series ([.reduction d, .folded d s.eventCount] ++
        if 0 < dropped then [.duplicates d dropped] else []) := by
  have none : ofSeries series (s.anomalies.map fun a => .anomaly d a.kind) = [] := by
    refine ofSeries_eq_nil.mpr fun x member same => other ?_
    obtain ⟨a, -, rfl⟩ := List.mem_map.mp member
    exact (congrArg Series.metric same).symm
  rw [samples, ofSeries_append, none, List.nil_append]

theorem samples_reductions : ofSeries (.reductions d) (s.samples d dropped) = [.reduction d] := by
  rw [samples_whole s d dropped (by simp [Series.reductions])]
  split <;> simp [ofSeries, Sample.series, Effect.series, Sample.effect, Series.reductions]

theorem samples_folded :
    ofSeries (.folded d) (s.samples d dropped) = [.folded d s.eventCount] := by
  rw [samples_whole s d dropped (by simp [Series.folded])]
  split <;> simp [ofSeries, Sample.series, Effect.series, Sample.effect, Series.folded]

theorem samples_duplicates :
    ofSeries (.duplicates d) (s.samples d dropped) =
      if 0 < dropped then [.duplicates d dropped] else [] := by
  rw [samples_whole s d dropped (by simp [Series.duplicates])]
  split <;> simp [ofSeries, Sample.series, Effect.series, Sample.effect, Series.duplicates]

end Snapshot

namespace Domain

variable (d : Domain) (events : List Event)

theorem run_samples :
    ((d.projection.run events).2.filter fun s => !s.isError) =
      (d.projection.reduce events).samples d
        (events.length - (events.map Event.id).dedup.length) := by
  have counted := d.projection.run_samples events
  rwa [projection_domain] at counted

theorem ofSeries_run {series : Series} (other : series.metric ≠ "missionlog_errors_total") :
    ofSeries series (d.projection.run events).2 =
      ofSeries series
        ((d.projection.reduce events).samples d
          (events.length - (events.map Event.id).dedup.length)) := by
  rw [← run_samples, ofSeries, ofSeries, List.filter_filter]
  refine List.filter_congr fun s _ => ?_
  cases s with
  | error code =>
    have away : (Sample.error code).series ≠ series :=
      fun same => other (congrArg Series.metric same).symm
    simp [away]
  | _ => simp [Sample.isError]

theorem total_reductions : total (.reductions d) (d.projection.run events).2 = 1 := by
  rw [← total_ofSeries, ofSeries_run d events (by simp [Series.reductions]),
    Snapshot.samples_reductions]
  exact total_singleton rfl

theorem values_folded :
    values (.folded d) (d.projection.run events).2 = [(d.projection.reduce events).eventCount] := by
  rw [← values_ofSeries, ofSeries_run d events (by simp [Series.folded]), Snapshot.samples_folded]
  simp [values, Sample.effect, Series.folded]

theorem total_duplicates :
    total (.duplicates d) (d.projection.run events).2 =
      events.length - (events.map Event.id).dedup.length := by
  rw [← total_ofSeries, ofSeries_run d events (by simp [Series.duplicates]),
    Snapshot.samples_duplicates]
  split
  · exact total_singleton rfl
  · rename_i none
    exact (Nat.eq_zero_of_not_pos none).symm

theorem total_anomalies (k : AnomalyKind) :
    total (.anomalies d k) (d.projection.run events).2 =
      ((d.projection.reduce events).ofKind k).length := by
  rw [← total_ofSeries, ofSeries_run d events (by simp [Series.anomalies]),
    Snapshot.samples_anomalies, total_counts, List.length_map]
  intro s member
  obtain ⟨a, same, rfl⟩ := List.mem_map.mp member
  rw [← of_decide_eq_true (List.mem_filter.mp same).2]
  rfl

/-- What a reduction of the domain may count. -/
def Counts (d : Domain) : Sample → Prop
  | .error _ => True
  | .reduction e | .folded e _ | .duplicates e _ | .anomaly e _ => e = d
  | .clock _ | .merge _ => False

variable {d events} {s : Sample}

theorem counts_of_mem_run (member : s ∈ (d.projection.run events).2) : d.Counts s := by
  by_cases error : s.isError = true
  · cases s with
    | error code => trivial
    | _ => cases error
  · have kept : s ∈ (d.projection.run events).2.filter fun s => !s.isError :=
      List.mem_filter.mpr ⟨member, by simpa using error⟩
    rw [run_samples, Snapshot.samples, List.mem_append, List.mem_append] at kept
    rcases kept with anomaly | whole | dropped
    · obtain ⟨a, -, rfl⟩ := List.mem_map.mp anomaly
      rfl
    · simp only [List.mem_cons, List.not_mem_nil, or_false] at whole
      rcases whole with rfl | rfl <;> rfl
    · split at dropped
      · rw [List.mem_singleton.mp dropped]
        rfl
      · cases dropped

theorem Counts.metric_ne (counts : d.Counts s) :
    s.series.metric ≠ "missionlog_clock_operations_total" ∧
      s.series.metric ≠ "missionlog_merges_total" := by
  cases s with
  | clock op => cases counts
  | merge review => cases counts
  | _ => simp [Sample.series, Sample.effect, Effect.series]

theorem Counts.domain_eq {e : Domain} (counts : d.Counts s)
    (label : ("domain", e.name) ∈ s.series.labels) : e = d := by
  cases s with
  | clock op => cases counts
  | merge review => cases counts
  | error code => simp [Sample.series, Sample.effect, Effect.series] at label
  | _ =>
    have names : e.name = d.name := by
      cases counts
      simpa [Sample.series, Sample.effect, Effect.series] using label
    exact name_injective names

/-- The metrics of a reduction agree with its snapshot, whatever was counted before: one reduction, one
    value for the events folded, the copies dropped, and the anomalies of each kind. Clocks, merges and
    other domains are left alone. -/
theorem metrics_agree_with_snapshot (d : Domain) (events : List Event) (earlier : List Sample) :
    let snapshot := (d.projection.run events).1
    let later := earlier ++ (d.projection.run events).2
    let dropped := events.length - (events.map Event.id).dedup.length
    total (.reductions d) later = total (.reductions d) earlier + 1 ∧
      values (.folded d) later = values (.folded d) earlier ++ [snapshot.eventCount] ∧
      total (.duplicates d) later = total (.duplicates d) earlier + dropped ∧
      (dropped = 0 → Untouched (.duplicates d) earlier later) ∧
      (∀ k : AnomalyKind,
        total (.anomalies d k) later = total (.anomalies d k) earlier + (snapshot.ofKind k).length) ∧
      (∀ series : Series, series.metric = "missionlog_clock_operations_total" ∨
        series.metric = "missionlog_merges_total" → Untouched series earlier later) ∧
      ∀ e : Domain, e ≠ d → ∀ series : Series, ("domain", e.name) ∈ series.labels →
        Untouched series earlier later := by
  intro snapshot later dropped
  refine ⟨?_, ?_, ?_, fun none => ?_, fun k => ?_, fun series metric => ?_,
    fun e other series label => ?_⟩
  · rw [total_append, total_reductions]
  · rw [values_append, values_folded]
    rfl
  · rw [total_append, total_duplicates]
  · refine untouched_append (ofSeries_eq_nil.mp ?_)
    rw [ofSeries_run d events (by simp [Series.duplicates]), Snapshot.samples_duplicates]
    exact if_neg (Nat.not_lt.mpr (Nat.le_of_eq none))
  · rw [total_append, total_anomalies]
    rfl
  · refine untouched_append fun s member same => ?_
    obtain ⟨clock, merge⟩ := (counts_of_mem_run member).metric_ne
    rw [same] at clock merge
    exact metric.elim clock merge
  · refine untouched_append fun s member same => other ?_
    exact (counts_of_mem_run member).domain_eq (same ▸ label)

end Domain
end EventLedger
