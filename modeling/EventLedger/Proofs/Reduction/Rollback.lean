import EventLedger.Proofs.Reduction.Accounting
import EventLedger.Proofs.Reduction.Isolation

/-! Completions that lose to a concurrent rollback. Main statement: they are reported, and work packages
are what they would be if these events had never been in the log. -/

namespace EventLedger

/-- What is filtered out beforehand can as well be filtered out of the results, if they still show it. -/
theorem filterMap_filter_of_shown {α β : Type} {f : α → Option β} {keep : α → Bool} {shown : β → Bool}
    (show_eq : ∀ a b, f a = some b → shown b = keep a) (xs : List α) :
    (xs.filter keep).filterMap f = (xs.filterMap f).filter shown := by
  rw [List.filterMap_filter, List.filter_filterMap]
  refine List.filterMap_congr fun a _ => ?_
  cases found : f a with
  | none => exact ite_self none
  | some b => rw [Option.filter_some, show_eq a b found]

theorem Projection.relevant_filter_id {σ : Type} (p : Projection σ) (events : List Event)
    (keep : EventId → Bool) : p.relevant (events.filter fun e => keep e.id) =
      (p.relevant events).filter fun x => keep x.1.id := by
  refine filterMap_filter_of_shown (fun e x found => ?_) events
  obtain ⟨payload, -, rfl⟩ := Option.map_eq_some_iff.mp found
  rfl

namespace Status

open Payload (WpStatusChanged)

variable {s t : State} {e : Event} {c : WpStatusChanged} {events : List (Event × Payload)}
  {cs : List (Event × WpStatusChanged)} {ids : List EventId}

/-- The completions of which a concurrent rollback of their work package is known. -/
def lost (cs : List (Event × WpStatusChanged)) : List (Event × WpStatusChanged) :=
  cs.filter fun f => isCompletion f.2 && cs.any fun r =>
    isRollback r.2 && r.2.wpId == f.2.wpId && f.1.isConcurrent r.1

theorem superseded_eq (cs : List (Event × WpStatusChanged)) :
    superseded cs = (lost cs).map (·.1.id) := rfl

theorem mem_lost {f : Event × WpStatusChanged} :
    f ∈ lost cs ↔ f ∈ cs ∧ f.2.fromLane = .forReview ∧ f.2.toLane = .done ∧
      ∃ r ∈ cs, r.2.fromLane = .forReview ∧ r.2.toLane = .inProgress ∧ r.2.reviewRef.isSome ∧
        r.2.wpId = f.2.wpId ∧ f.1.isConcurrent r.1 := by
  simp only [lost, isCompletion, isRollback, List.mem_filter, Bool.and_eq_true, List.any_eq_true,
    beq_iff_eq, and_assoc]

/-- Where ids are not repeated, no other change has the id of one that is lost. -/
theorem filter_superseded (distinct : (cs.map (·.1.id)).Nodup) :
    (cs.filter fun f => f.1.id ∈ superseded cs) = lost cs := by
  refine List.filter_congr fun f member => ?_
  have own : f.1.id ∈ superseded cs ↔ f ∈ lost cs := by
    constructor
    · intro inIds
      obtain ⟨g, inLost, same⟩ := List.mem_map.mp inIds
      rwa [← List.inj_on_of_nodup_map distinct (mem_lost.mp inLost).1 member same]
    · exact List.mem_map_of_mem
  rw [Bool.eq_iff_iff, decide_eq_true_iff, own, lost, List.mem_filter, and_iff_right member]

/-- Rollbacks are not lost, so without the completions that are lost no others are. -/
theorem superseded_without :
    superseded (cs.filter fun f => f.1.id ∉ superseded cs) = [] := by
  rw [superseded_eq, List.map_eq_nil_iff, List.eq_nil_iff_forall_not_mem]
  intro f inLost
  obtain ⟨member, source, target, r, other, rollback⟩ := mem_lost.mp inLost
  obtain ⟨present, kept⟩ := List.mem_filter.mp member
  have again : f ∈ lost cs :=
    mem_lost.mpr ⟨present, source, target, r, (List.mem_filter.mp other).1, rollback⟩
  exact of_decide_eq_true kept (List.mem_map_of_mem again)

/-- What is found of a change that is lost. -/
def dismissal (c : WpStatusChanged) : Finding :=
  ⟨.supersededByRollback, c.wpId ++ " for_review -> done superseded by a concurrent reviewer rollback"⟩

theorem apply_dismissed (h : e.id ∈ s.superseded) : apply s e c = (s, [dismissal c]) := by
  unfold apply
  rw [if_pos (List.contains_iff_mem.mpr h)]
  rfl

/-- The oddities of a change that is not dismissed. -/
def remarks : List AnomalyKind :=
  [.fromLaneMismatch, .forceWithoutReason, .eventAfterTerminal, .invalidTransition]

theorem mismatch_remarks (lane : Lane) (c : WpStatusChanged) : Reports remarks (mismatch lane c) := by
  unfold mismatch
  split <;> simp [remarks]

theorem withoutReason_remarks (c : WpStatusChanged) : Reports remarks (withoutReason c) := by
  unfold withoutReason
  split <;> simp [remarks]

theorem apply_remarks (h : e.id ∉ s.superseded) (c : WpStatusChanged) :
    Reports remarks (apply s e c).2 := by
  have moved (lane : Lane) := mismatch_remarks lane c
  have forced := withoutReason_remarks c
  unfold apply
  rw [if_neg (mt List.contains_iff_mem.mp h)]
  dsimp only
  split_ifs <;> simp only [reports_append, moved, forced, true_and] <;> simp [remarks]

theorem apply_workPackages (hs : e.id ∉ s.superseded) (ht : e.id ∉ t.superseded)
    (same : s.workPackages = t.workPackages) :
    (apply s e c).1.workPackages = (apply t e c).1.workPackages := by
  unfold apply
  rw [if_neg (mt List.contains_iff_mem.mp hs), if_neg (mt List.contains_iff_mem.mp ht), same]
  dsimp only
  split_ifs <;> rfl

theorem step_superseded (s : State) (e : Event) (x : Payload) :
    (step s e x).1.superseded = s.superseded := by
  cases x with
  | wpStatusChanged c => exact apply_superseded s e c
  | _ => rfl

theorem step_dismissed (h : e.id ∈ s.superseded) (x : Payload) : (step s e x).1 = s := by
  cases x with
  | wpStatusChanged c => exact congrArg Prod.fst (apply_dismissed h)
  | _ => rfl

theorem step_workPackages (hs : e.id ∉ s.superseded) (ht : e.id ∉ t.superseded)
    (same : s.workPackages = t.workPackages) (x : Payload) :
    (step s e x).1.workPackages = (step t e x).1.workPackages := by
  cases x with
  | wpStatusChanged c => exact apply_workPackages hs ht same
  | _ => exact same

/-- A fold that dismisses some events and one that never sees them lead to the same work packages. -/
theorem after_without (known : s.superseded = ids) (none : t.superseded = [])
    (same : s.workPackages = t.workPackages) :
    (projection.after s events).workPackages =
      (projection.after t (events.filter fun x => x.1.id ∉ ids)).workPackages := by
  induction events generalizing s t with
  | nil => exact same
  | cons x rest ih =>
    rw [Projection.after_cons]
    by_cases dismissed : x.1.id ∈ ids
    · rw [List.filter_cons_of_neg (by simpa using dismissed)]
      refine ih ((step_superseded s x.1 x.2).trans known) none ?_
      exact (congrArg State.workPackages (step_dismissed (known ▸ dismissed) x.2)).trans same
    · rw [List.filter_cons_of_pos (by simpa using dismissed), Projection.after_cons]
      refine ih ((step_superseded s x.1 x.2).trans known) ((step_superseded t x.1 x.2).trans none) ?_
      exact step_workPackages (known ▸ dismissed) (none ▸ List.not_mem_nil) same x.2

/-- A fold reports exactly the changes that it dismisses, in their order. -/
theorem findings_dismissed (s : State) (events : List (Event × Payload)) :
    ((projection.findings s events).flatten.filter fun a => a.kind = .supersededByRollback) =
      ((changes events).filter fun f => f.1.id ∈ s.superseded).map fun f =>
        .about f.1 (dismissal f.2) := by
  induction events generalizing s with
  | nil => rfl
  | cons x rest ih =>
    obtain ⟨e, x⟩ := x
    rw [Projection.findings_cons, List.flatten_cons, List.filter_append, ih]
    have known : (projection.step s e x).1.superseded = s.superseded := step_superseded s e x
    rw [known]
    cases x with
    | wpStatusChanged c =>
      have more : changes ((e, .wpStatusChanged c) :: rest) = (e, c) :: changes rest := rfl
      have here : (projection.step s e (.wpStatusChanged c)).2 = (apply s e c).2 := rfl
      rw [more, here]
      by_cases dismissed : e.id ∈ s.superseded
      · rw [apply_dismissed dismissed, List.filter_cons_of_pos (a := (e, c)) (by simpa using dismissed)]
        rfl
      · have others : (((apply s e c).2.map (Anomaly.about e)).filter fun a =>
            a.kind = .supersededByRollback) = [] := by
          refine List.filter_eq_nil_iff.mpr fun a member => ?_
          obtain ⟨f, found, rfl⟩ := List.mem_map.mp member
          have kind : f.kind ∈ remarks := apply_remarks dismissed c f found
          intro same
          rw [show f.kind = .supersededByRollback from of_decide_eq_true same] at kind
          exact absurd kind (by decide)
        rw [others, List.filter_cons_of_neg (a := (e, c)) (by simpa using dismissed), List.nil_append]
    | _ => rfl

theorem changes_filter_id (events : List (Event × Payload)) (keep : EventId → Bool) :
    changes (events.filter fun x => keep x.1.id) = (changes events).filter fun f => keep f.1.id := by
  refine filterMap_filter_of_shown (fun p f found => ?_) events
  obtain ⟨e, x⟩ := p
  cases x with
  | wpStatusChanged c => rw [← Option.some.inj found]
  | _ => cases found

/-- The changes of work packages that are folded of a log. -/
def folded (log : List Event) : List (Event × WpStatusChanged) :=
  changes (projection.relevant (Event.canonicalize log))

theorem mem_folded {log : List Event} :
    (e, c) ∈ folded log ↔ e ∈ Event.canonicalize log ∧ e.decoded? = some (.wpStatusChanged c) := by
  rw [folded, mem_changes, projection.mem_relevant]
  exact and_congr_right fun _ => and_iff_left (List.mem_singleton_self _)

/-- Nothing else is folded. -/
theorem map_folded (log : List Event) :
    (folded log).map (fun f => (f.1, .wpStatusChanged f.2)) =
      projection.relevant (Event.canonicalize log) := by
  rw [folded, changes, List.map_filterMap]
  refine (List.filterMap_congr fun p member => ?_).trans List.filterMap_some
  obtain ⟨e, x⟩ := p
  have kind := (projection.mem_relevant.mp member).2.2
  cases x with
  | wpStatusChanged c => rfl
  | _ => cases List.mem_singleton.mp kind

theorem folded_events (log : List Event) :
    ((folded log).map Prod.fst).Sublist (Event.canonicalize log) := by
  have sub := projection.relevant_events (Event.canonicalize log)
  rwa [← map_folded, List.map_map] at sub

theorem folded_nodup (log : List Event) : ((folded log).map (·.1.id)).Nodup := by
  have ids := (Event.canonicalize_ids_nodup log).sublist ((folded_events log).map Event.id)
  rwa [List.map_map] at ids

theorem eventCount_eq (log : List Event) :
    (projection.reduce log).eventCount = (folded log).length := by
  have count : (projection.reduce log).eventCount =
      (projection.relevant (Event.canonicalize log)).length := rfl
  rw [count, ← map_folded, List.length_map]

theorem relevant_without (log : List Event) (ids : List EventId) :
    projection.relevant (Event.canonicalize (log.filter fun e => e.id ∉ ids)) =
      (projection.relevant (Event.canonicalize log)).filter fun x => x.1.id ∉ ids :=
  (congrArg projection.relevant (Event.canonicalize_filter_id log fun id => id ∉ ids)).trans
    (projection.relevant_filter_id _ fun id => id ∉ ids)

theorem folded_without (log : List Event) (ids : List EventId) :
    folded (log.filter fun e => e.id ∉ ids) = (folded log).filter fun f => f.1.id ∉ ids :=
  (congrArg changes (relevant_without log ids)).trans (changes_filter_id _ fun id => id ∉ ids)

theorem reported_dismissed (log : List Event) :
    (projection.reduce log).ofKind .supersededByRollback =
      (lost (folded log)).map fun f => .about f.1 (dismissal f.2) := by
  have kept := Domain.ofKind_folded .status log (k := .supersededByRollback) (by decide)
  refine kept.trans ((findings_dismissed _ _).trans ?_)
  exact congrArg (List.map _) (filter_superseded (folded_nodup log))

theorem workPackages_without (log : List Event) :
    (projection.reduce (log.filter fun e => e.id ∉ superseded (folded log))).state.workPackages =
      (projection.reduce log).state.workPackages := by
  let whole := projection.relevant (Event.canonicalize log)
  let rest := whole.filter fun x => x.1.id ∉ superseded (folded log)
  have none : (start rest).superseded = [] := by
    have left : changes rest = (folded log).filter fun f => f.1.id ∉ superseded (folded log) :=
      changes_filter_id whole fun id => id ∉ superseded (folded log)
    rw [start, left, superseded_without]
  rw [projection.reduce_state, projection.reduce_state, relevant_without]
  exact (after_without (s := start whole) (t := start rest) rfl none rfl).symm

theorem eventCount_without (log : List Event) :
    (projection.reduce (log.filter fun e => e.id ∉ superseded (folded log))).eventCount +
      (lost (folded log)).length = (projection.reduce log).eventCount := by
  have split := (folded log).length_eq_length_filter_add fun f => f.1.id ∈ superseded (folded log)
  rw [filter_superseded (folded_nodup log)] at split
  rw [eventCount_eq, eventCount_eq, folded_without, split, Nat.add_comm]
  simp only [decide_not]

/-- A completion is reported as superseded exactly if a rollback of its work package, concurrent with
    it, is folded too. Work packages and lanes are those of the log without all copies of these
    completions, where so many events less are counted. -/
theorem rollback_precedence (log : List Event) :
    let dropped := lost (folded log)
    let s := projection.reduce log
    let t := projection.reduce (log.filter fun e => e.id ∉ dropped.map (·.1.id))
    (∀ e c, (e, c) ∈ folded log ↔
        e ∈ Event.canonicalize log ∧ e.decoded? = some (.wpStatusChanged c)) ∧
      (∀ e c, (e, c) ∈ dropped ↔ (e, c) ∈ folded log ∧ c.fromLane = .forReview ∧ c.toLane = .done ∧
        ∃ r d, (r, d) ∈ folded log ∧ d.fromLane = .forReview ∧ d.toLane = .inProgress ∧
          d.reviewRef.isSome ∧ d.wpId = c.wpId ∧ e.isConcurrent r) ∧
      s.ofKind .supersededByRollback = dropped.map (fun f => .about f.1 (dismissal f.2)) ∧
      t.state.workPackages = s.state.workPackages ∧
      (∀ l, t.state.inLane l = s.state.inLane l) ∧
      t.eventCount + dropped.length = s.eventCount := by
  intro dropped s t
  have same : t.state.workPackages = s.state.workPackages := workPackages_without log
  refine ⟨fun e c => mem_folded, fun e c => ?_, reported_dismissed log, same, fun l => ?_,
    eventCount_without log⟩
  · rw [mem_lost, Prod.exists]
  · rw [State.inLane, State.lanes, same]
    rfl

end Status
end EventLedger
