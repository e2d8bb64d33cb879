import EventLedger.Merge.Conflict
import EventLedger.Merge.StateMachine
import EventLedger.Proofs.Merge.Causes
import EventLedger.Proofs.Order.Canonical
import EventLedger.Proofs.Reduction.Folding

/-! Which events are in conflict with which. Every event that is concurrent with another one is in the
group of its clock and aggregate, also together with events that it caused. -/

namespace EventLedger

namespace Event.ConflictKey

def lexicographic (k : ConflictKey) : ℕ ×ₗ String := toLex (k.clock, k.aggregateId)

theorem lexicographic_injective : Function.Injective lexicographic := by
  rintro ⟨c, a⟩ ⟨d, b⟩ h
  have parts : (c, a) = (d, b) := toLex.injective h
  rw [(Prod.mk.inj parts).1, (Prod.mk.inj parts).2]

instance : LinearOrder ConflictKey := LinearOrder.lift' lexicographic lexicographic_injective

theorem before_iff_lt (a b : ConflictKey) : a.before b = true ↔ a < b := by
  change _ ↔ lexicographic a < lexicographic b
  simp only [lexicographic, Prod.Lex.toLex_lt_toLex, before, Bool.or_eq_true, Bool.and_eq_true,
    decide_eq_true_eq, beq_iff_eq]

theorem not_before_eq_le :
    (fun a b : ConflictKey => !b.before a) = fun a b => decide (a ≤ b) := by
  funext a b
  rw [Bool.eq_iff_iff, Bool.not_eq_true', ← Bool.not_eq_true, before_iff_lt, decide_eq_true_eq]
  exact not_lt

end Event.ConflictKey

namespace Event

variable {events canonical g : List Event} {a b e : Event} {key : ConflictKey}

theorem eraseDups_nodup {α : Type} [BEq α] [LawfulBEq α] (xs : List α) : xs.eraseDups.Nodup := by
  induction h : xs.length using Nat.strong_induction_on generalizing xs with
  | _ n ih =>
    cases xs with
    | nil => exact List.nodup_nil
    | cons x rest =>
      subst h
      rw [List.eraseDups_cons, List.nodup_cons]
      have shorter := List.length_filter_le (fun y => !y == x) rest
      refine ⟨fun again => ?_, ih _ (Nat.lt_succ_of_le shorter) _ rfl⟩
      simpa using (List.mem_filter.mp (List.mem_eraseDups.mp again)).2

theorem mem_conflictKeys : key ∈ conflictKeys events ↔ ∃ e ∈ events, e.conflictKey = key := by
  rw [conflictKeys, (List.mergeSort_perm _ _).mem_iff, List.mem_eraseDups, List.mem_map]

theorem conflictKeys_ascending (events : List Event) :
    (conflictKeys events).Pairwise fun j k => j.before k := by
  have distinct : (conflictKeys events).Nodup :=
    (List.mergeSort_perm _ _).nodup_iff.mpr (eraseDups_nodup _)
  have sorted : (conflictKeys events).Pairwise (· ≤ ·) := by
    rw [conflictKeys, ConflictKey.not_before_eq_le]
    exact List.pairwise_mergeSort' _ _
  exact (sorted.and distinct).imp
    fun ⟨le, other⟩ => (ConflictKey.before_iff_lt _ _).mpr (lt_of_le_of_ne le other)

/-- Concurrent events have their key in common, but neither their id nor the one the other as cause. -/
theorem isConcurrent_iff : a.isConcurrent b ↔
    a.conflictKey = b.conflictKey ∧ a.id ≠ b.id ∧ ¬ a.causes b ∧ ¬ b.causes a := by
  simp only [isConcurrent, Bool.and_eq_true, beq_iff_eq, bne_iff_ne, causes_iff, conflictKey,
    ConflictKey.mk.injEq]
  constructor
  · rintro ⟨⟨⟨⟨aggregate, clock⟩, other⟩, notB⟩, notA⟩
    exact ⟨⟨clock, aggregate⟩, other, fun cause => notA cause.1, fun cause => notB cause.1⟩
  · rintro ⟨⟨clock, aggregate⟩, other, notA, notB⟩
    exact ⟨⟨⟨⟨aggregate, clock⟩, other⟩, fun cause => notB ⟨cause, other.symm⟩⟩,
      fun cause => notA ⟨cause, other⟩⟩

theorem isConcurrent_comm : a.isConcurrent b ↔ b.isConcurrent a := by
  rw [isConcurrent_iff, isConcurrent_iff, eq_comm, ne_comm, and_comm (a := ¬ a.causes b)]

/-- An event with which another one is concurrent. -/
def Contested (events : List Event) (e : Event) : Prop := ∃ other ∈ events, e.isConcurrent other

theorem mem_conflictMembers :
    e ∈ conflictMembers canonical key ↔
      e ∈ canonical ∧ e.conflictKey = key ∧ Contested canonical e := by
  simp only [conflictMembers, List.mem_filter, List.any_eq_true, decide_eq_true_eq, Contested]
  constructor
  · rintro ⟨⟨member, own⟩, other, ⟨present, -⟩, against⟩
    exact ⟨member, own, other, present, against⟩
  · -- the events that an event is concurrent with are all of its own bucket
    rintro ⟨member, own, other, present, against⟩
    have same := (isConcurrent_iff.mp against).1
    exact ⟨⟨member, own⟩, other, ⟨present, same.symm.trans own⟩, against⟩

theorem eq_conflictMembers_of_mem (hg : g ∈ conflicts events) (he : e ∈ g) :
    g = conflictMembers (canonicalize events) e.conflictKey := by
  obtain ⟨key, -, rfl⟩ := List.mem_map.mp (List.mem_filter.mp hg).1
  rw [(mem_conflictMembers.mp he).2.1]

theorem two_le_length_of_ne {xs : List Event} (ha : a ∈ xs) (hb : b ∈ xs) (other : a ≠ b) :
    2 ≤ xs.length := by
  match xs with
  | [x] =>
    rw [List.mem_singleton] at ha hb
    exact absurd (ha.trans hb.symm) other
  | _ :: _ :: _ => exact Nat.le_add_left 2 _

theorem mem_group_of_concurrent (hg : g ∈ conflicts events) (ha : a ∈ g)
    (hb : b ∈ canonicalize events) (against : a.isConcurrent b) : b ∈ g := by
  have whole := eq_conflictMembers_of_mem hg ha
  rw [whole] at ha ⊢
  have member := (mem_conflictMembers.mp ha).1
  exact mem_conflictMembers.mpr ⟨hb, (isConcurrent_iff.mp against).1.symm,
    a, member, isConcurrent_comm.mp against⟩

theorem conflictMembers_mem_conflicts (he : e ∈ canonicalize events)
    (contested : Contested (canonicalize events) e) :
    conflictMembers (canonicalize events) e.conflictKey ∈ conflicts events := by
  obtain ⟨other, present, against⟩ := contested
  have own := mem_conflictMembers.mpr ⟨he, rfl, other, present, against⟩
  have others : other ∈ conflictMembers (canonicalize events) e.conflictKey :=
    mem_conflictMembers.mpr ⟨present, (isConcurrent_iff.mp against).1.symm,
      e, he, isConcurrent_comm.mp against⟩
  have apart : e ≠ other := fun same => (isConcurrent_iff.mp against).2.1 (congrArg id same)
  refine List.mem_filter.mpr ⟨List.mem_map.mpr ⟨e.conflictKey, ?_, rfl⟩, ?_⟩
  · exact mem_conflictKeys.mpr ⟨e, he, rfl⟩
  · exact decide_eq_true (two_le_length_of_ne own others apart)

/-- Two events are in one group exactly when they have clock and aggregate in common and each of them
    is concurrent with some event. -/
theorem grouped_iff : (∃ g ∈ conflicts events, a ∈ g ∧ b ∈ g) ↔
    a ∈ canonicalize events ∧ b ∈ canonicalize events ∧ a.conflictKey = b.conflictKey ∧
      Contested (canonicalize events) a ∧ Contested (canonicalize events) b := by
  constructor
  · rintro ⟨g, hg, ha, hb⟩
    have whole := eq_conflictMembers_of_mem hg ha
    rw [whole, mem_conflictMembers] at ha hb
    exact ⟨ha.1, hb.1, hb.2.1.symm, ha.2.2, hb.2.2⟩
  · rintro ⟨ha, hb, same, contestedA, contestedB⟩
    exact ⟨_, conflictMembers_mem_conflicts ha contestedA,
      mem_conflictMembers.mpr ⟨ha, rfl, contestedA⟩,
      mem_conflictMembers.mpr ⟨hb, same.symm, contestedB⟩⟩

theorem conflicts_keys_ascending (events : List Event) :
    (conflicts events).Pairwise fun g h => ∀ a ∈ g, ∀ b ∈ h, a.conflictKey.before b.conflictKey := by
  refine (List.pairwise_map.mpr ((conflictKeys_ascending _).imp ?_)).filter _
  intro j k less a ha b hb
  rwa [(mem_conflictMembers.mp ha).2.1, (mem_conflictMembers.mp hb).2.1]

theorem conflicts_disjoint (events : List Event) : (conflicts events).Pairwise List.Disjoint := by
  refine (conflicts_keys_ascending events).imp fun {g h} less e inG inH => ?_
  exact lt_irrefl _ ((ConflictKey.before_iff_lt _ _).mp (less e inG e inH))

theorem group_sublist (hg : g ∈ conflicts events) : g.Sublist (canonicalize events) := by
  obtain ⟨key, -, rfl⟩ := List.mem_map.mp (List.mem_filter.mp hg).1
  exact List.filter_sublist.trans List.filter_sublist

theorem canonicalize_group (hg : g ∈ conflicts events) : canonicalize g = g := by
  have part := group_sublist hg
  exact canonicalize_of_ascending ((canonicalize_ascending events).sublist part)
    ((canonicalize_ids_nodup events).sublist (part.map id))

theorem exists_unique_group (ha : a ∈ canonicalize events) (hb : b ∈ canonicalize events)
    (against : a.isConcurrent b) : ∃! g, g ∈ conflicts events ∧ a ∈ g ∧ b ∈ g := by
  have same := (isConcurrent_iff.mp against).1
  have contestedA : Contested (canonicalize events) a := ⟨b, hb, against⟩
  have contestedB : Contested (canonicalize events) b := ⟨a, ha, isConcurrent_comm.mp against⟩
  obtain ⟨g, hg, inA, inB⟩ := grouped_iff.mpr ⟨ha, hb, same, contestedA, contestedB⟩
  refine ⟨g, ⟨hg, inA, inB⟩, fun h ⟨hh, inA', _⟩ => ?_⟩
  rw [eq_conflictMembers_of_mem hg inA, eq_conflictMembers_of_mem hh inA']

theorem two_le_length_of_group (hg : g ∈ conflicts events) : 2 ≤ g.length :=
  of_decide_eq_true (List.mem_filter.mp hg).2

theorem contested_of_group (hg : g ∈ conflicts events) (ha : a ∈ g) : Contested g a := by
  obtain ⟨-, -, -, ⟨b, hb, against⟩, -⟩ := grouped_iff.mp ⟨g, hg, ha, ha⟩
  exact ⟨b, mem_group_of_concurrent hg ha hb against, against⟩

theorem isConcurrent_iff_of_group (hg : g ∈ conflicts events) (ha : a ∈ g) (hb : b ∈ g)
    (other : a ≠ b) : a.isConcurrent b ↔ ¬ a.causes b ∧ ¬ b.causes a := by
  obtain ⟨memberA, memberB, same, -⟩ := grouped_iff.mp ⟨g, hg, ha, hb⟩
  have ids : a.id ≠ b.id := fun level =>
    other (List.inj_on_of_nodup_map (canonicalize_ids_nodup events) memberA memberB level)
  rw [isConcurrent_iff, and_iff_right same, and_iff_right ids]

/-- Groups are mutually concurrent exactly when no event caused another one of its clock and aggregate
    while each of the two is concurrent with some event. Two members of a group are concurrent unless
    one of them caused the other. -/
theorem conflicts_mutual_iff (events : List Event) :
    let canonical := canonicalize events
    ((∀ g ∈ conflicts events, ∀ a ∈ g, ∀ b ∈ g, a ≠ b → a.isConcurrent b) ↔
      ∀ a ∈ canonical, ∀ b ∈ canonical, a.causes b → a.conflictKey = b.conflictKey →
        Contested canonical a → ¬ Contested canonical b) ∧
      ∀ g ∈ conflicts events, ∀ a ∈ g, ∀ b ∈ g, a ≠ b →
        (a.isConcurrent b ↔ ¬ a.causes b ∧ ¬ b.causes a) := by
  refine ⟨⟨?_, ?_⟩, fun g hg a ha b hb => isConcurrent_iff_of_group hg ha hb⟩
  · intro concurrent a memberA b memberB cause same contestedA contestedB
    obtain ⟨g, hg, ha, hb⟩ := grouped_iff.mpr ⟨memberA, memberB, same, contestedA, contestedB⟩
    have other : a ≠ b := fun eq => (causes_iff.mp cause).2 (congrArg id eq)
    exact ((isConcurrent_iff_of_group hg ha hb other).mp (concurrent g hg a ha b hb other)).1 cause
  · intro apart g hg a ha b hb other
    obtain ⟨memberA, memberB, same, contestedA, contestedB⟩ := grouped_iff.mp ⟨g, hg, ha, hb⟩
    rw [isConcurrent_iff_of_group hg ha hb other]
    exact ⟨fun cause => apart a memberA b memberB cause same contestedA contestedB,
      fun cause => apart b memberB a memberA cause same.symm contestedB contestedA⟩

/-- A third event brings an event and its effect into one group. -/
theorem effect_grouped_with_cause :
    let event (id : String) (cause : Option String) : Event :=
      { Event.plain id 1 "" .null with causationId := cause.map EventId.mk }
    let a := event "a" none
    let b := event "b" (some "a")
    let c := event "c" none
    [a, b, c] ∈ conflicts [a, b, c] ∧ a ≠ b ∧ a.causes b ∧ a.isConcurrent b = false := by
  intro event a b c
  have canonical : canonicalize [a, b, c] = [a, b, c] :=
    canonicalize_of_ascending (by decide) (by decide)
  have contested : Contested (canonicalize [a, b, c]) a := ⟨c, by simp [canonical], by decide⟩
  have group := conflictMembers_mem_conflicts (by simp [canonical]) contested
  rw [canonical] at group
  exact ⟨group, fun same => absurd (congrArg id same) (by decide), by decide, by decide⟩

end Event

namespace StatePriority

theorem ranking_perm (p : StatePriority) (events : List Event) : (p.ranking events).Perm events :=
  List.mergeSort_perm _ _

theorem ranking_eq_nil_iff {p : StatePriority} {events : List Event} :
    p.ranking events = [] ↔ events = [] := by
  rw [← List.length_eq_zero_iff, (p.ranking_perm events).length_eq, List.length_eq_zero_iff]

/-- Where there are events, they are all considered. -/
theorem merge_eq_ok {p : StatePriority} {events : List Event}
    (some : Event.canonicalize events ≠ []) :
    ∃ r, p.merge events = .ok r ∧
      r.conflictingEvents = (Event.canonicalize events).map Event.id := by
  cases ranked : p.ranking (Event.canonicalize events) with
  | nil => exact absurd (ranking_eq_nil_iff.mp ranked) some
  | cons winner others => exact ⟨_, by rw [merge, ranked], rfl⟩

theorem merge_group {p : StatePriority} {events g : List Event} (hg : g ∈ Event.conflicts events) :
    ∃ r, p.merge g = .ok r ∧ r.conflictingEvents = g.map Event.id := by
  -- the merge puts the group in canonical order once more, which leaves it as it is
  have whole := Event.canonicalize_group hg
  have some : Event.canonicalize g ≠ [] := by
    rw [whole]
    rintro rfl
    exact absurd (Event.two_le_length_of_group hg) (by decide)
  have merged := merge_eq_ok (p := p) some
  rwa [whole] at merged

end StatePriority

/-- Any two canonical events that are concurrent are together in one group, and no event is in two. A
    group has two members at least, each concurrent with another one. Groups are in ascending order of
    the key that their members share, and members in ascending order of their own keys. A merge of a
    group considers its members in their order. -/
theorem Event.conflicts_complete (events : List Event) :
    let canonical := canonicalize events
    (∀ a ∈ canonical, ∀ b ∈ canonical, a.isConcurrent b →
        ∃! g, g ∈ conflicts events ∧ a ∈ g ∧ b ∈ g) ∧
      (∀ g ∈ conflicts events, 2 ≤ g.length ∧ ∀ a ∈ g, ∃ b ∈ g, a.isConcurrent b) ∧
      (conflicts events).Pairwise List.Disjoint ∧
      ((conflicts events).Pairwise fun g h => ∀ a ∈ g, ∀ b ∈ h, a.conflictKey.before b.conflictKey) ∧
      (∀ g ∈ conflicts events, g.Sublist canonical ∧
        (∀ a ∈ g, ∀ b ∈ g, a.conflictKey = b.conflictKey) ∧
        g.Pairwise fun a b => a.orderKey.before b.orderKey) ∧
      ∀ g ∈ conflicts events, ∀ p : StatePriority, ∃ r, p.merge g = .ok r ∧
        r.conflictingEvents = g.map Event.id := by
  refine ⟨fun a ha b hb => exists_unique_group ha hb, ?_, conflicts_disjoint events,
    conflicts_keys_ascending events, ?_, fun g hg p => StatePriority.merge_group hg⟩
  · exact fun g hg => ⟨two_le_length_of_group hg, fun a ha => contested_of_group hg ha⟩
  · intro g hg
    have part := group_sublist hg
    exact ⟨part, fun a ha b hb => (grouped_iff.mp ⟨g, hg, ha, hb⟩).2.2.1,
      (canonicalize_ascending events).sublist part⟩

end EventLedger
