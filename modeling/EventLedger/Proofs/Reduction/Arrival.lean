import EventLedger.Merge.Causality
import EventLedger.Merge.Conflict
import EventLedger.Merge.Replicated
import EventLedger.Merge.StateMachine
import EventLedger.Proofs.Order.Ties
import EventLedger.Reduction

/-! A log is folded and merged as its canonical sequence is, so how its events arrived does not
matter. -/

namespace EventLedger

theorem Projection.reduce_canonicalize {σ : Type} (p : Projection σ) (events : List Event) :
    p.reduce (Event.canonicalize events) = p.reduce events := by
  simp only [reduce, run, Event.canonicalize_canonicalize]

theorem StatePriority.merge_canonicalize (p : StatePriority) (events : List Event) :
    p.merge (Event.canonicalize events) = p.merge events := by
  simp only [merge, Event.canonicalize_canonicalize]

namespace Event

theorem topologicalOrder_canonicalize (events : List Event) :
    topologicalOrder (canonicalize events) = topologicalOrder events := by
  simp only [topologicalOrder, canonicalize_canonicalize]

theorem conflicts_canonicalize (events : List Event) :
    conflicts (canonicalize events) = conflicts events := by
  simp only [conflicts, canonicalize_canonicalize]

theorem mergeSet_canonicalize (events : List Event) (field : String) :
    mergeSet (canonicalize events) field = mergeSet events field := by
  simp only [mergeSet, canonicalize_canonicalize]

theorem mergeCounter_canonicalize (events : List Event) (field : String) :
    mergeCounter (canonicalize events) field = mergeCounter events field := by
  simp only [mergeCounter, canonicalize_canonicalize]

/-- Lists that have the same events lead to the same snapshots and the same merges, whatever the order
    and the repetitions. What is folded and merged are the best copies. -/
theorem arrival_independent (xs ys : List Event) (h : ∀ e, e ∈ xs ↔ e ∈ ys) (unmixed : Unmixed xs) :
    (∀ d : Domain, d.projection.reduce xs = d.projection.reduce ys) ∧
      topologicalOrder xs = topologicalOrder ys ∧
      conflicts xs = conflicts ys ∧
      (∀ p : StatePriority, p.merge xs = p.merge ys) ∧
      (∀ field, mergeSet xs field = mergeSet ys field) ∧
      (∀ field, mergeCounter xs field = mergeCounter ys field) ∧
      canonicalize ys = canonicalize xs ∧ ∀ e, e ∈ canonicalize xs ↔ Best xs e := by
  have canonical : canonicalize ys = canonicalize xs :=
    canonicalize_congr unmixed.decided fun e => (h e).symm
  refine ⟨fun d => ?_, ?_, ?_, fun p => ?_, fun field => ?_, fun field => ?_, canonical,
    fun e => mem_canonicalize_iff_best unmixed.decided⟩
  · rw [← d.projection.reduce_canonicalize ys, canonical, d.projection.reduce_canonicalize]
  · rw [← topologicalOrder_canonicalize ys, canonical, topologicalOrder_canonicalize]
  · rw [← conflicts_canonicalize ys, canonical, conflicts_canonicalize]
  · rw [← p.merge_canonicalize ys, canonical, p.merge_canonicalize]
  · rw [← mergeSet_canonicalize ys, canonical, mergeSet_canonicalize]
  · rw [← mergeCounter_canonicalize ys, canonical, mergeCounter_canonicalize]

/-- Copies of one id that disagree, one of them delivered twice. Of the two earliest the one with the
    greater text is folded and counted. -/
theorem arrival_independent_readings :
    let late : Event := { reading (.int 2) with lamportClock := 2 }
    let xs := [late, reading (.int 1), reading (.int 3), late]
    let ys := [reading (.int 3), late, reading (.int 1)]
    (∀ e, e ∈ xs ↔ e ∈ ys) ∧ Unmixed xs ∧
      Domain.lifecycle.projection.reduce xs = Domain.lifecycle.projection.reduce ys ∧
      conflicts xs = conflicts ys ∧
      canonicalize ys = [reading (.int 3)] ∧
      (Domain.lifecycle.projection.reduce ys).eventCount = 1 ∧
      (Domain.lifecycle.projection.reduce ys).lastEventId = some ⟨"e"⟩ ∧
      mergeCounter xs "level" = 3 ∧ mergeCounter ys "level" = 3 := by
  intro late xs ys
  have same (e : Event) : e ∈ xs ↔ e ∈ ys := by
    simp only [xs, ys, List.mem_cons, List.not_mem_nil, or_false]
    tauto
  have unmixed : Unmixed xs := by
    refine unmixed_of_unsigned fun e member => ?_
    simp only [xs, List.mem_cons, List.not_mem_nil, or_false] at member
    rcases member with rfl | rfl | rfl | rfl <;> rfl
  have kept : canonicalize ys = [reading (.int 3)] := by
    refine canonicalize_eq_of_best (unmixed.subset fun e => (same e).mpr).decided (by decide) ?_
      (by decide)
    refine List.forall_mem_singleton.mpr (best_reading List.mem_cons_self fun c member _ => ?_)
    simp only [ys, List.mem_cons, List.not_mem_nil, or_false] at member
    rcases member with rfl | rfl | rfl
    · exact .inl rfl
    · exact .inr (.inr (by decide))
    · exact .inr (.inl rfl)
  have folded : (Domain.lifecycle.projection.reduce ys).eventCount = 1 ∧
      (Domain.lifecycle.projection.reduce ys).lastEventId = some ⟨"e"⟩ := by
    rw [Projection.reduce, Projection.run, kept]
    decide +kernel
  have counted : mergeCounter ys "level" = 3 := by
    rw [mergeCounter, kept]
    decide
  obtain ⟨snapshots, -, groups, -, -, counters, -⟩ := arrival_independent xs ys same unmixed
  exact ⟨same, unmixed, snapshots .lifecycle, groups, kept, folded.1, folded.2,
    (counters "level").trans counted, counted⟩

end Event
end EventLedger
