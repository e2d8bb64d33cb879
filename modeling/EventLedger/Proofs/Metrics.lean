import EventLedger.Metrics
import Mathlib.Algebra.BigOperators.Group.List.Basic
import Mathlib.Logic.Function.Basic

/-! A series in terms of the samples that belong to it. -/

namespace EventLedger

theorem Domain.name_injective : Function.Injective name := by
  intro d d'
  cases d <;> cases d' <;> decide

theorem AnomalyKind.name_injective : Function.Injective name := by
  intro k k'
  cases k <;> cases k' <;> decide

namespace Metrics

def Effect.series : Effect → Series
  | .count series _ => series
  | .value series _ => series

def Sample.series (s : Sample) : Series := s.effect.series

namespace Series

def reductions (d : Domain) : Series := ⟨"missionlog_reductions_total", [("domain", d.name)]⟩

def folded (d : Domain) : Series := ⟨"missionlog_events_folded", [("domain", d.name)]⟩

def duplicates (d : Domain) : Series :=
  ⟨"missionlog_duplicates_dropped_total", [("domain", d.name)]⟩

def anomalies (d : Domain) (k : AnomalyKind) : Series :=
  ⟨"missionlog_anomalies_total", [("domain", d.name), ("kind", k.name)]⟩

end Series

/-- The samples that belong to a series. -/
def ofSeries (series : Series) (samples : List Sample) : List Sample :=
  samples.filter fun s => s.series = series

/-- A series stands as it stood before some samples were taken. -/
structure Untouched (series : Series) (before after : List Sample) : Prop where
  counted : series ∈ counted after ↔ series ∈ counted before
  measured : series ∈ measured after ↔ series ∈ measured before
  total : total series after = total series before
  values : values series after = values series before

variable {series : Series} {samples earlier : List Sample}

theorem total_append (series : Series) (a b : List Sample) :
    total series (a ++ b) = total series a + total series b := by
  change List.sum _ = List.sum _ + List.sum _
  rw [List.map_append, List.sum_append]

theorem values_append (series : Series) (a b : List Sample) :
    values series (a ++ b) = values series a ++ values series b := List.filterMap_append

theorem ofSeries_append (series : Series) (a b : List Sample) :
    ofSeries series (a ++ b) = ofSeries series a ++ ofSeries series b := List.filter_append a b

theorem ofSeries_eq_nil : ofSeries series samples = [] ↔ ∀ s ∈ samples, s.series ≠ series := by
  simp only [ofSeries, List.filter_eq_nil_iff, decide_eq_true_eq, ne_eq]

theorem total_ofSeries (series : Series) (samples : List Sample) :
    total series (ofSeries series samples) = total series samples := by
  induction samples with
  | nil => rfl
  | cons s samples ih =>
    rw [← List.singleton_append, ofSeries_append, total_append, total_append, ih]
    congr 1
    cases effect : s.effect <;> by_cases here : s.series = series <;>
      simp_all [ofSeries, total, Sample.series, Effect.series]

theorem values_ofSeries (series : Series) (samples : List Sample) :
    values series (ofSeries series samples) = values series samples := by
  rw [values, ofSeries, List.filterMap_filter, values]
  refine List.filterMap_congr fun s _ => ?_
  cases effect : s.effect <;> simp [Sample.series, effect, Effect.series]

theorem mem_counted_ofSeries : series ∈ counted (ofSeries series samples) ↔ series ∈ counted samples := by
  simp only [counted, List.mem_eraseDups, List.mem_filterMap, ofSeries, List.mem_filter,
    decide_eq_true_eq]
  refine exists_congr fun s => ?_
  cases effect : s.effect <;> simp [Sample.series, effect, Effect.series]

theorem mem_measured_ofSeries :
    series ∈ measured (ofSeries series samples) ↔ series ∈ measured samples := by
  simp only [measured, List.mem_eraseDups, List.mem_filterMap, ofSeries, List.mem_filter,
    decide_eq_true_eq]
  refine exists_congr fun s => ?_
  cases effect : s.effect <;> simp [Sample.series, effect, Effect.series]

theorem total_singleton {s : Sample} {n : Nat} (counts : s.effect = .count series n) :
    total series [s] = n := by
  simp [total, counts]

/-- Samples that each count one for a series come to their number. -/
theorem total_counts (counts : ∀ s ∈ samples, s.effect = .count series 1) :
    total series samples = samples.length := by
  induction samples with
  | nil => rfl
  | cons s samples ih =>
    obtain ⟨here, later⟩ := List.forall_mem_cons.mp counts
    rw [← List.singleton_append, total_append, total_singleton here, ih later, List.length_append,
      List.length_singleton]

/-- Samples of other series leave a series alone. -/
theorem untouched_append (others : ∀ s ∈ samples, s.series ≠ series) :
    Untouched series earlier (earlier ++ samples) := by
  have same : ofSeries series (earlier ++ samples) = ofSeries series earlier := by
    rw [ofSeries_append, ofSeries_eq_nil.mpr others, List.append_nil]
  constructor
  · rw [← mem_counted_ofSeries, same, mem_counted_ofSeries]
  · rw [← mem_measured_ofSeries, same, mem_measured_ofSeries]
  · rw [← total_ofSeries, same, total_ofSeries]
  · rw [← values_ofSeries, same, values_ofSeries]

end Metrics
end EventLedger
