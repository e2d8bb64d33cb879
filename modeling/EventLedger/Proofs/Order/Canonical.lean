import EventLedger.Proofs.Order.Kept

/-! The canonical sequence: sorting and deduplication commute, and leave the ids of the input in
strictly ascending order of keys. -/

namespace EventLedger.Event

def Ascending (events : List Event) : Prop :=
  events.Pairwise fun a b => a.orderKey.before b.orderKey

instance (events : List Event) : Decidable (Ascending events) :=
  inferInstanceAs (Decidable (events.Pairwise _))

theorem ascending_iff {events : List Event} :
    Ascending events ↔ events.Pairwise fun a b => a.orderKey < b.orderKey := by
  simp only [Ascending, OrderKey.before_iff_lt]

theorem Ascending.eq_of_mem_iff {left right : List Event} (hl : Ascending left)
    (hr : Ascending right) (same : ∀ e, e ∈ left ↔ e ∈ right) : left = right := by
  have : Std.Irrefl fun a b : Event => a.orderKey < b.orderKey := ⟨fun _ => lt_irrefl _⟩
  have : Std.Antisymm fun a b : Event => a.orderKey < b.orderKey :=
    ⟨fun _ _ less greater => absurd (less.trans greater) (lt_irrefl _)⟩
  exact (ascending_iff.mp hl).eq_of_mem_iff (ascending_iff.mp hr) same

theorem keep_ascending {kept : List Event} {e : Event} (sorted : Ascending kept)
    (bound : ∀ k ∈ kept, k.orderKey ≤ e.orderKey) : Ascending (keep kept e) := by
  rw [ascending_iff] at *
  induction kept with
  | nil => exact List.pairwise_singleton _ _
  | cons k rest ih =>
    obtain ⟨first, sorted⟩ := List.pairwise_cons.mp sorted
    have le := bound k List.mem_cons_self
    rw [keep]
    split
    · have key : (stay k e).orderKey = k.orderKey := by
        rcases stay_eq k e with stays | stays
        · rw [stays]
        · have smaller := (stay_key_le k e).1
          rw [stays] at smaller ⊢
          exact le_antisymm smaller le
      exact List.pairwise_cons.mpr ⟨fun a member => key ▸ first a member, sorted⟩
    · rename_i other
      refine List.pairwise_cons.mpr
        ⟨?_, ih sorted fun a member => bound a (List.mem_cons_of_mem _ member)⟩
      intro a member
      rcases mem_keep member with member | rfl
      · exact first a member
      · exact lt_of_le_of_ne le fun level => other (congrArg OrderKey.id level)

theorem dedup_ascending {events : List Event}
    (sorted : events.Pairwise fun a b => a.orderKey ≤ b.orderKey) : Ascending (dedup events) := by
  induction events using List.reverseRecOn with
  | nil => exact List.Pairwise.nil
  | append_singleton events e ih =>
    obtain ⟨before, -, last⟩ := List.pairwise_append.mp sorted
    rw [dedup_append_singleton]
    exact keep_ascending (ih before)
      fun k member => last k (mem_of_mem_dedup member) e (List.mem_singleton_self _)

theorem canonicalize_ascending (events : List Event) : Ascending (canonicalize events) :=
  dedup_ascending (sort_ascending events)

theorem Ascending.sorted {events : List Event} (h : Ascending events) :
    events.Pairwise fun a b => a.orderKey ≤ b.orderKey := (ascending_iff.mp h).imp le_of_lt

theorem ascending_of_sorted {events : List Event}
    (sorted : events.Pairwise fun a b => a.orderKey ≤ b.orderKey)
    (distinct : (events.map Event.id).Nodup) : Ascending events := by
  rw [ascending_iff]
  exact (sorted.and (List.pairwise_map.mp distinct)).imp
    fun ⟨le, other⟩ => lt_of_le_of_ne le fun level => other (congrArg OrderKey.id level)

theorem sort_dedup_ascending (events : List Event) : Ascending (sort (dedup events)) :=
  ascending_of_sorted (sort_ascending _)
    (((sort_perm _).map Event.id).nodup_iff.mpr (dedup_ids_nodup events))

theorem mem_canonicalize {events : List Event} {e : Event} :
    e ∈ canonicalize events ↔ e ∈ dedup events := by
  simp only [canonicalize, mem_dedup_iff_key, filter_key_sort, mem_sort]

theorem canonicalize_eq_sort_dedup (events : List Event) :
    canonicalize events = sort (dedup events) :=
  (canonicalize_ascending events).eq_of_mem_iff (sort_dedup_ascending events)
    fun _ => mem_canonicalize.trans mem_sort.symm

theorem canonicalize_ids_nodup (events : List Event) :
    ((canonicalize events).map Event.id).Nodup := dedup_ids_nodup _

theorem mem_canonicalize_ids {events : List Event} {id : EventId} :
    id ∈ (canonicalize events).map Event.id ↔ id ∈ events.map Event.id := by
  rw [canonicalize, mem_dedup_ids, ((sort_perm events).map Event.id).mem_iff]

theorem mem_of_mem_canonicalize {events : List Event} {e : Event} (member : e ∈ canonicalize events) :
    e ∈ events := mem_of_mem_dedup (mem_canonicalize.mp member)

theorem canonicalize_eq_nil_iff {events : List Event} : canonicalize events = [] ↔ events = [] := by
  constructor
  · intro nothing
    refine List.eq_nil_iff_forall_not_mem.mpr fun e member => ?_
    have present := mem_canonicalize_ids.mpr (List.mem_map_of_mem member)
    rw [nothing] at present
    cases present
  · rintro rfl
    exact List.eq_nil_iff_forall_not_mem.mpr fun e member => by cases mem_of_mem_canonicalize member

theorem mem_canonicalize_of_distinct {events : List Event} (distinct : (events.map Event.id).Nodup)
    {e : Event} : e ∈ canonicalize events ↔ e ∈ events := by
  refine ⟨mem_of_mem_canonicalize, fun member => ?_⟩
  obtain ⟨kept, present, same⟩ :=
    List.mem_map.mp (mem_canonicalize_ids.mpr (List.mem_map_of_mem member))
  rwa [← List.inj_on_of_nodup_map distinct (mem_of_mem_canonicalize present) member same]

theorem canonicalize_filter {events : List Event} (distinct : (events.map Event.id).Nodup)
    (keep : Event → Bool) : canonicalize (events.filter keep) = (canonicalize events).filter keep := by
  have part : ((events.filter keep).map Event.id).Nodup :=
    distinct.sublist (List.filter_sublist.map _)
  refine (canonicalize_ascending _).eq_of_mem_iff ((canonicalize_ascending events).filter keep)
    fun e => ?_
  rw [mem_canonicalize_of_distinct part, List.mem_filter, List.mem_filter,
    mem_canonicalize_of_distinct distinct]

/-- Which copy of an id is kept depends on the copies of that id alone. -/
theorem mem_canonicalize_of_copies {xs ys : List Event} {e : Event}
    (copies : (xs.filter fun c => c.id = e.id) = ys.filter fun c => c.id = e.id) :
    e ∈ canonicalize xs ↔ e ∈ canonicalize ys := by
  rw [mem_canonicalize, mem_canonicalize, mem_dedup_iff, mem_dedup_iff, copies]

/-- Where ids are left out with all their copies, the copies kept of the others stay. -/
theorem canonicalize_filter_id (events : List Event) (keep : EventId → Bool) :
    canonicalize (events.filter fun e => keep e.id) =
      (canonicalize events).filter fun e => keep e.id := by
  refine (canonicalize_ascending _).eq_of_mem_iff ((canonicalize_ascending events).filter _)
    fun e => ?_
  rw [List.mem_filter]
  by_cases kept : keep e.id = true
  · rw [and_iff_left kept]
    apply mem_canonicalize_of_copies
    rw [List.filter_filter]
    refine List.filter_congr fun c _ => ?_
    by_cases same : c.id = e.id
    · simp [same, kept]
    · simp [same]
  · refine iff_of_false (fun member => kept ?_) fun member => kept member.2
    exact (List.mem_filter.mp (mem_of_mem_canonicalize member)).2

/-- In an ascending sequence, the event with the smaller key comes first. -/
theorem Ascending.pair_sublist {events : List Event} (sorted : Ascending events) {e f : Event}
    (he : e ∈ events) (hf : f ∈ events) (less : e.orderKey < f.orderKey) :
    [e, f].Sublist events := by
  obtain ⟨front, back, rfl⟩ := List.append_of_mem he
  have ascending := ascending_iff.mp sorted
  have later : f ∈ back := by
    rcases List.mem_append.mp hf with inFront | inBack
    · have greater := (List.pairwise_append.mp ascending).2.2 f inFront e List.mem_cons_self
      exact absurd (less.trans greater) (lt_irrefl _)
    · rcases List.mem_cons.mp inBack with rfl | inBack
      · exact absurd less (lt_irrefl _)
      · exact inBack
  exact ((List.singleton_sublist.mpr later).cons_cons e).trans (List.sublist_append_right front _)

theorem Ascending.pair_sublist_iff {events : List Event} (sorted : Ascending events) {e f : Event}
    (he : e ∈ events) (hf : f ∈ events) : [e, f].Sublist events ↔ e.orderKey.before f.orderKey := by
  constructor
  · exact fun pair => List.rel_of_pairwise_cons (sorted.sublist pair) (List.mem_singleton_self f)
  · exact fun less => sorted.pair_sublist he hf ((OrderKey.before_iff_lt _ _).mp less)

theorem pair_sublist_canonicalize {events : List Event} {e f : Event} (he : e ∈ canonicalize events)
    (hf : f ∈ canonicalize events) (less : e.orderKey < f.orderKey) :
    [e, f].Sublist (canonicalize events) :=
  (canonicalize_ascending events).pair_sublist he hf less

theorem canonicalize_eq_of_perm {events kept : List Event} (sorted : Ascending kept)
    (left : (dedup events).Perm kept) : canonicalize events = kept :=
  (canonicalize_ascending events).eq_of_mem_iff sorted fun _ => mem_canonicalize.trans left.mem_iff

theorem canonicalize_of_ascending {events : List Event} (sorted : Ascending events)
    (distinct : (events.map Event.id).Nodup) : canonicalize events = events :=
  (canonicalize_ascending events).eq_of_mem_iff sorted fun _ => mem_canonicalize_of_distinct distinct

theorem canonicalize_canonicalize (events : List Event) :
    canonicalize (canonicalize events) = canonicalize events :=
  canonicalize_of_ascending (canonicalize_ascending events) (canonicalize_ids_nodup events)

/-- Sorting and dropping copies give one sequence in either order. It is strictly ascending, has
    each id of the input once and no other, and each of its events is a copy of the input that no
    other copy of the id comes before. -/
theorem sort_dedup_commute (events : List Event) :
    dedup (sort events) = sort (dedup events) ∧
      ((dedup (sort events)).Pairwise fun a b => a.orderKey.before b.orderKey) ∧
      (∀ id, ((dedup (sort events)).map Event.id).count id =
        if id ∈ events.map Event.id then 1 else 0) ∧
      ∀ e ∈ dedup (sort events),
        e ∈ events ∧ ∀ c ∈ events, c.id = e.id → c.orderKey.before e.orderKey = false := by
  refine ⟨canonicalize_eq_sort_dedup events, canonicalize_ascending events, ?_, ?_⟩
  · intro id
    split
    · rename_i present
      exact List.count_eq_one_of_mem (canonicalize_ids_nodup events)
        (mem_canonicalize_ids.mpr present)
    · rename_i absent
      exact List.count_eq_zero_of_not_mem fun present => absent (mem_canonicalize_ids.mp present)
  · intro e member
    have kept := mem_canonicalize.mp member
    refine ⟨mem_of_mem_dedup kept, fun c copy same => ?_⟩
    rw [OrderKey.before_eq_decide, decide_eq_false_iff_not]
    exact not_lt.mpr (dedup_key_le kept c copy same)

end EventLedger.Event
