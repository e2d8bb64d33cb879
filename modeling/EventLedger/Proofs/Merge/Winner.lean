import EventLedger.Proofs.Merge.Conflict

/-! Who wins a merge: the event whose state ranks highest, the latest one where ranks are level. Main
statement: a merge fails only without events, and otherwise names this winner, its rank, all events
considered and whether the winner shares its rank. -/

namespace EventLedger.StatePriority

variable {p : StatePriority} {events : List Event} {e w : Event}

/-- Where an event stands among others: by the rank of its state, then by its key. -/
def standing (p : StatePriority) (e : Event) : ℤ ×ₗ OrderKey := toLex (p.rankOf e, e.orderKey)

theorem below_iff_lt (p : StatePriority) (a b : Event) :
    p.below a b = true ↔ p.standing a < p.standing b := by
  simp only [below, standing, Prod.Lex.toLex_lt_toLex, Bool.or_eq_true, Bool.and_eq_true,
    decide_eq_true_eq, beq_iff_eq, OrderKey.before_iff_lt]

theorem rankOf_le_of_standing_le {a b : Event} (h : p.standing a ≤ p.standing b) :
    p.rankOf a ≤ p.rankOf b := by
  rcases Prod.Lex.toLex_le_toLex.mp h with less | ⟨level, -⟩
  · exact le_of_lt less
  · exact le_of_eq level

theorem id_eq_of_standing_eq {a b : Event} (h : p.standing a = p.standing b) : a.id = b.id := by
  have parts : (p.rankOf a, a.orderKey) = (p.rankOf b, b.orderKey) := toLex.injective h
  exact congrArg OrderKey.id (Prod.mk.inj parts).2

theorem standing_injOn (distinct : (events.map Event.id).Nodup) {a b : Event} (ha : a ∈ events)
    (hb : b ∈ events) (h : p.standing a = p.standing b) : a = b :=
  List.inj_on_of_nodup_map distinct ha hb (id_eq_of_standing_eq h)

theorem ranking_descending (p : StatePriority) (events : List Event) :
    (p.ranking events).Pairwise fun a b => p.standing b ≤ p.standing a := by
  have order : (fun a b => !p.below a b) = fun a b => decide (p.standing b ≤ p.standing a) := by
    funext a b
    rw [Bool.eq_iff_iff, Bool.not_eq_true', ← Bool.not_eq_true, below_iff_lt, decide_eq_true_eq]
    exact not_lt
  rw [ranking, order]
  refine (List.pairwise_mergeSort ?_ ?_ events).imp of_decide_eq_true
  · intro a b c ab bc
    simp only [decide_eq_true_eq] at *
    exact bc.trans ab
  · intro a b
    simp only [Bool.or_eq_true, decide_eq_true_eq]
    exact le_total _ _

/-- The first of the ranking is one of the events, and none of them stands above it. -/
theorem standing_le_of_ranking {others : List Event} (ranked : p.ranking events = w :: others) :
    w ∈ events ∧ ∀ e ∈ events, p.standing e ≤ p.standing w := by
  have descending := p.ranking_descending events
  have perm := p.ranking_perm events
  rw [ranked] at descending perm
  refine ⟨perm.mem_iff.mp List.mem_cons_self, fun e present => ?_⟩
  rcases List.mem_cons.mp (perm.mem_iff.mpr present) with rfl | later
  · exact le_refl _
  · exact List.rel_of_pairwise_cons descending later

/-- Where ids are not repeated, all others stand below it. -/
theorem standing_lt_of_ranking {others : List Event} (distinct : (events.map Event.id).Nodup)
    (ranked : p.ranking events = w :: others) (present : e ∈ events) (other : e ≠ w) :
    p.standing e < p.standing w := by
  obtain ⟨member, above⟩ := standing_le_of_ranking ranked
  exact lt_of_le_of_ne (above e present) fun level =>
    other (standing_injOn distinct present member level)

/-- The runner-up alone tells whether the winner shares its rank with any other event. -/
theorem tied_iff_second {others : List Event} (ranked : p.ranking events = w :: others) :
    2 ≤ (events.countP fun e => p.rankOf e = p.rankOf w) ↔
      ∃ second, others.head? = some second ∧ p.rankOf second = p.rankOf w := by
  have descending := p.ranking_descending events
  have perm := p.ranking_perm events
  rw [ranked] at descending perm
  obtain ⟨below, descending⟩ := List.pairwise_cons.mp descending
  rw [← perm.countP_eq, List.countP_cons, if_pos (decide_eq_true rfl)]
  cases others with
  | nil => simp
  | cons second rest =>
    have next := rankOf_le_of_standing_le (below second List.mem_cons_self)
    simp only [List.head?_cons, Option.some.injEq, exists_eq_left']
    rw [Nat.succ_le_succ_iff, Nat.one_le_iff_ne_zero, ← Nat.pos_iff_ne_zero, List.countP_pos_iff]
    simp only [decide_eq_true_eq]
    constructor
    · rintro ⟨e, member, level⟩
      rcases List.mem_cons.mp member with rfl | later
      · exact level
      · have le := rankOf_le_of_standing_le (List.rel_of_pairwise_cons descending later)
        exact le_antisymm next (level ▸ le)
    · exact fun level => ⟨second, List.mem_cons_self, level⟩

/-- A count of two takes two events. -/
theorem tied_iff_two (distinct : (events.map Event.id).Nodup) (rank : Int) :
    2 ≤ (events.countP fun e => p.rankOf e = rank) ↔
      ∃ a ∈ events, ∃ b ∈ events, a.id ≠ b.id ∧ p.rankOf a = rank ∧ p.rankOf b = rank := by
  rw [List.countP_eq_length_filter]
  have part : ((events.filter fun e => p.rankOf e = rank).map Event.id).Nodup :=
    distinct.sublist (List.filter_sublist.map _)
  have holds {e : Event} (member : e ∈ events.filter fun e => p.rankOf e = rank) :
      e ∈ events ∧ p.rankOf e = rank :=
    ⟨(List.mem_filter.mp member).1, of_decide_eq_true (List.mem_filter.mp member).2⟩
  constructor
  · intro two
    match found : events.filter fun e => p.rankOf e = rank with
    | [] | [_] => simp [found] at two
    | a :: b :: rest =>
      rw [found] at part holds
      have first := holds (e := a) List.mem_cons_self
      have next := holds (e := b) (List.mem_cons_of_mem a List.mem_cons_self)
      have other : a.id ≠ b.id := List.rel_of_pairwise_cons part List.mem_cons_self
      exact ⟨a, first.1, b, next.1, other, first.2, next.2⟩
  · rintro ⟨a, ha, b, hb, other, rankA, rankB⟩
    refine Event.two_le_length_of_ne (a := a) (b := b) ?_ ?_ fun same => other (congrArg Event.id same)
    · exact List.mem_filter.mpr ⟨ha, decide_eq_true rankA⟩
    · exact List.mem_filter.mpr ⟨hb, decide_eq_true rankB⟩

theorem merge_eq_error_iff {err : LedgerError} :
    p.merge events = .error err ↔ events = [] ∧ err = .emptyConflictSet := by
  rw [merge]
  cases ranked : p.ranking (Event.canonicalize events) with
  | nil =>
    have empty := Event.canonicalize_eq_nil_iff.mp (ranking_eq_nil_iff.mp ranked)
    simp only [empty, true_and, Except.error.injEq, eq_comm]
  | cons winner others =>
    have some : events ≠ [] := fun empty => by
      rw [ranking_eq_nil_iff.mpr (Event.canonicalize_eq_nil_iff.mpr empty)] at ranked
      cases ranked
    simp [some]

/-- A merge fails exactly without events. Otherwise its winner is the canonical event that stands above
    all others, its rank is the highest one, all canonical events are considered in their order, and a
    review is asked for exactly if two events have the highest rank. The first two of the ranking tell
    as much. -/
theorem merge_outcome (p : StatePriority) (events : List Event) :
    let canonical := Event.canonicalize events
    (∀ err, p.merge events = .error err ↔ events = [] ∧ err = .emptyConflictSet) ∧
      (events ≠ [] → ∃ r winner, p.merge events = .ok r ∧ winner ∈ canonical ∧
        r.winner = winner.id ∧ r.winningState = p.resolvedState? winner ∧
        (∀ e ∈ canonical, e ≠ winner → p.standing e < p.standing winner) ∧
        r.winningPriority = p.rankOf winner ∧ (∀ e ∈ canonical, p.rankOf e ≤ r.winningPriority) ∧
        r.conflictingEvents = canonical.map Event.id ∧
        (r.requiresManualReview ↔ ∃ a ∈ canonical, ∃ b ∈ canonical, a.id ≠ b.id ∧
          p.rankOf a = r.winningPriority ∧ p.rankOf b = r.winningPriority) ∧
        ∃ others, p.ranking canonical = winner :: others ∧
          (r.requiresManualReview ↔
            ∃ second, others.head? = some second ∧ p.rankOf second = r.winningPriority)) := by
  intro canonical
  refine ⟨fun err => merge_eq_error_iff, fun some => ?_⟩
  have distinct : (canonical.map Event.id).Nodup := Event.canonicalize_ids_nodup events
  cases ranked : p.ranking canonical with
  | nil => exact absurd (Event.canonicalize_eq_nil_iff.mp (ranking_eq_nil_iff.mp ranked)) some
  | cons winner others =>
    have merged : p.merge events = .ok (p.resolution canonical winner others.head?) := by
      rw [merge, ranked]
    obtain ⟨member, above⟩ := standing_le_of_ranking ranked
    have review : (p.resolution canonical winner others.head?).requiresManualReview = true ↔
        ∃ second, others.head? = .some second ∧ p.rankOf second = p.rankOf winner := by
      simp only [resolution, Option.any_eq_true, decide_eq_true_eq]
    refine ⟨_, winner, merged, member, rfl, rfl, ?_, rfl, ?_, rfl, ?_, others, rfl, review⟩
    · exact fun e present other => standing_lt_of_ranking distinct ranked present other
    · exact fun e present => rankOf_le_of_standing_le (above e present)
    · exact (review.trans (tied_iff_second ranked).symm).trans (tied_iff_two distinct _)

end EventLedger.StatePriority
