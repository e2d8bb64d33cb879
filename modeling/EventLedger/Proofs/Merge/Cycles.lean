import EventLedger.Proofs.Merge.Placement
import EventLedger.Proofs.Reduction.Folding

/-! Which events come after their cause. Those do that no cycle leads to. Of the others, which stand at
the end, those do that have a greater key than their cause. -/

namespace EventLedger.Event

open Relation

variable {events placed : List Event} {c e : Event}

theorem Placement.cause_precedes (h : Placement events placed) (member : e ∈ placed)
    (cause : cause? events e = some c) : [c, e].Sublist placed := by
  obtain ⟨front, back, rfl⟩ := List.append_of_mem member
  have before := (h.next front e back rfl).1 c cause
  exact (List.singleton_sublist.mpr before).append (List.singleton_sublist.mpr List.mem_cons_self)

theorem grounded_iff_cause (cause : cause? events e = some c) :
    Grounded events e ↔ Grounded events c := by
  rw [grounded_iff, cause]
  exact ⟨fun h => h c rfl, fun h d same => Option.some.inj same ▸ h⟩

theorem sublist_of_cons_sublist_append {front back rest : List Event} (absent : c ∉ front)
    (h : (c :: rest).Sublist (front ++ back)) : (c :: rest).Sublist back := by
  obtain ⟨left, right, split, inFront, inBack⟩ := List.sublist_append_iff.mp h
  cases left with
  | nil => exact split ▸ inBack
  | cons d left =>
    obtain ⟨rfl, -⟩ := List.cons.inj split
    exact absurd (inFront.subset List.mem_cons_self) absent

/-- An event comes after its cause exactly when no cycle leads to it, or else its key is greater than
    that of the cause. -/
theorem cause_precedes_iff (he : e ∈ canonicalize events)
    (cause : cause? (canonicalize events) e = some c) :
    [c, e].Sublist (topologicalOrder events) ↔
      (∀ d, ReflTransGen (Caused (canonicalize events)) d e → ¬ OnCycle (canonicalize events) d) ∨
        c.orderKey.before e.orderKey := by
  have placement := placement_canonical events
  have hc := mem_of_cause? cause
  have grounds := grounded_iff_cause cause
  rw [← grounded_iff_no_cycle, topologicalOrder_eq]
  by_cases ground : Grounded (canonicalize events) e
  · have first := placement.cause_precedes (placement.mem_iff.mpr ⟨he, ground⟩) cause
    exact iff_of_true (first.trans (List.sublist_append_left _ _)) (Or.inl ground)
  · have stranded : Ascending
        ((canonicalize events).filter fun e => ¬ Grounded (canonicalize events) e) :=
      (canonicalize_ascending events).filter _
    -- the cause leads into the same cycle, so both of them are at the end
    have absent : c ∉ (Frontier.start (canonicalize events)).place :=
      fun found => ground (grounds.mpr (placement.mem_iff.mp found).2)
    rw [or_iff_right ground, ← stranded.pair_sublist_iff]
    · exact ⟨sublist_of_cons_sublist_append absent,
        fun pair => pair.trans (List.sublist_append_right _ _)⟩
    · exact List.mem_filter.mpr ⟨hc, decide_eq_true fun h => ground (grounds.mpr h)⟩
    · exact List.mem_filter.mpr ⟨he, decide_eq_true ground⟩

/-- The cycle of `a` and `b` leads to all but `g` and `h`. Of the two other events that `b` caused, one
    has a smaller key than `b`. -/
theorem cause_precedes_iff_trees :
    let event (id : String) (clock : Nat) (cause : Option String) : Event :=
      { Event.plain id clock "" .null with causationId := cause.map EventId.mk }
    let a := event "a" 2 (some "b")
    let b := event "b" 3 (some "a")
    let early := event "c" 1 (some "b")
    let late := event "d" 4 (some "b")
    let g := event "g" 6 none
    let h := event "h" 5 (some "g")
    let log := [early, a, b, late, h, g]
    late ∈ canonicalize log ∧ cause? (canonicalize log) late = some b ∧
      [b, late].Sublist (topologicalOrder log) ∧
      early ∈ canonicalize log ∧ cause? (canonicalize log) early = some b ∧
      ¬ [b, early].Sublist (topologicalOrder log) ∧
      h ∈ canonicalize log ∧ cause? (canonicalize log) h = some g ∧
      [g, h].Sublist (topologicalOrder log) := by
  intro event a b early late g h log
  have canonical : canonicalize log = log :=
    canonicalize_of_ascending (by decide) (by decide)
  have hLate : late ∈ canonicalize log := by simp [canonical, log]
  have hEarly : early ∈ canonicalize log := by simp [canonical, log]
  have hH : h ∈ canonicalize log := by simp [canonical, log]
  have causeLate : cause? (canonicalize log) late = some b := by rw [canonical]; rfl
  have causeEarly : cause? (canonicalize log) early = some b := by rw [canonical]; rfl
  have causeH : cause? (canonicalize log) h = some g := by rw [canonical]; rfl
  refine ⟨hLate, causeLate, ?_, hEarly, causeEarly, ?_, hH, causeH, ?_⟩
  · exact (cause_precedes_iff hLate causeLate).mpr (Or.inr (by decide))
  · rw [cause_precedes_iff hEarly causeEarly]
    rintro (none | less)
    · have back : cause? (canonicalize log) b = some a := by rw [canonical]; rfl
      have forth : cause? (canonicalize log) a = some b := by rw [canonical]; rfl
      exact none b (.single causeEarly) (.tail (.single forth) back)
    · exact absurd less (by decide)
  · refine (cause_precedes_iff hH causeH).mpr (Or.inl ?_)
    rw [← grounded_iff_no_cycle, canonical]
    exact ⟨2, rfl⟩

/-- An event that lies on no cycle itself, but has its cause on one, is placed before it. -/
theorem effect_of_cycle_placed_early :
    let event (id : String) (clock : Nat) (cause : String) : Event :=
      { Event.plain id clock "" .null with causationId := some ⟨cause⟩ }
    let a := event "a" 2 "b"
    let b := event "b" 3 "a"
    let c := event "c" 1 "b"
    let log := [c, a, b]
    c ∈ canonicalize log ∧ cause? (canonicalize log) c = some b ∧ ¬ OnCycle (canonicalize log) c ∧
      topologicalOrder log = [c, a, b] ∧ ¬ [b, c].Sublist (topologicalOrder log) := by
  intro event a b c log
  have sorted : Ascending log := by decide
  have canonical : canonicalize log = log := canonicalize_of_ascending sorted (by decide)
  have order : topologicalOrder log = log := by
    rw [topologicalOrder_eq, canonical, show Frontier.start log = ⟨[], log⟩ from rfl, Frontier.place]
    rfl
  rw [order, canonical]
  refine ⟨List.mem_cons_self, rfl, fun cycle => ?_, rfl, fun pair => ?_⟩
  · obtain ⟨x, member, effect⟩ := cycle.exists_effect
    have none : ∀ x ∈ log, c.causes x = false := by decide
    rw [none x member] at effect
    cases effect
  · have less := (sorted.pair_sublist_iff (by simp [log]) List.mem_cons_self).mp pair
    exact absurd less (by decide)

end EventLedger.Event
