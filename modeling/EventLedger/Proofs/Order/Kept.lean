import EventLedger.Proofs.Order.Key
import Mathlib.Data.List.Induction

/-! What deduplication keeps: of the copies of an id, the one that a run of arrivals leaves. -/

namespace EventLedger.Event

/-- Of a kept copy and an arriving one, the copy that stays. -/
def stay (kept e : Event) : Event := if e.supersedes kept then e else kept

/-- The copy that is left when copies of one id arrive one after another. -/
def survivor : List Event → Option Event
  | [] => none
  | e :: rest => some (rest.foldl stay e)

theorem supersedes_of_lt {e kept : Event} (h : e.orderKey < kept.orderKey) :
    e.supersedes kept = true := by
  rw [supersedes, if_pos ((OrderKey.before_iff_lt _ _).mpr h)]

theorem not_supersedes_of_gt {e kept : Event} (h : kept.orderKey < e.orderKey) :
    e.supersedes kept = false := by
  have notLess : ¬ e.orderKey.before kept.orderKey = true := by
    rw [OrderKey.before_iff_lt]
    exact not_lt_of_gt h
  rw [supersedes, if_neg notLess, if_pos ((OrderKey.before_iff_lt _ _).mpr h)]

/-- Copies of one key are told apart by value and ranked by text. -/
theorem supersedes_level {e kept : Event} (h : e.orderKey = kept.orderKey) :
    e.supersedes kept = true ↔ e.same kept = false ∧ kept.text < e.text := by
  have level : ¬ kept.orderKey.before kept.orderKey = true := by
    rw [OrderKey.before_iff_lt]
    exact lt_irrefl _
  rw [supersedes, h, if_neg level, if_neg level, Bool.and_eq_true, Bool.not_eq_true',
    decide_eq_true_eq]

theorem key_le_of_supersedes {e kept : Event} (h : e.supersedes kept = true) :
    e.orderKey ≤ kept.orderKey := by
  by_contra less
  rw [not_supersedes_of_gt (not_le.mp less)] at h
  exact Bool.false_ne_true h

theorem stay_eq (kept e : Event) : stay kept e = kept ∨ stay kept e = e := by
  unfold stay
  split
  · exact Or.inr rfl
  · exact Or.inl rfl

theorem stay_key_le (kept e : Event) :
    (stay kept e).orderKey ≤ kept.orderKey ∧ (stay kept e).orderKey ≤ e.orderKey := by
  unfold stay
  split
  · rename_i above
    exact ⟨key_le_of_supersedes above, le_refl _⟩
  · rename_i below
    refine ⟨le_refl _, ?_⟩
    by_contra less
    exact below (supersedes_of_lt (not_le.mp less))

theorem survivor_append_singleton (copies : List Event) (e : Event) :
    survivor (copies ++ [e]) = some ((survivor copies).elim e (stay · e)) := by
  cases copies with
  | nil => rfl
  | cons c rest => simp only [List.cons_append, survivor, List.foldl_append, List.foldl_cons,
      List.foldl_nil, Option.elim_some]

theorem survivor_eq_none_iff {copies : List Event} : survivor copies = none ↔ copies = [] := by
  cases copies <;> simp [survivor]

theorem survivor_mem {copies : List Event} {k : Event} (h : survivor copies = some k) :
    k ∈ copies := by
  induction copies using List.reverseRecOn generalizing k with
  | nil => cases h
  | append_singleton copies e ih =>
    rw [survivor_append_singleton, Option.some.injEq] at h
    cases before : survivor copies with
    | none =>
      rw [before, Option.elim_none] at h
      exact List.mem_append_right _ (h ▸ List.mem_singleton_self _)
    | some kept =>
      rw [before, Option.elim_some] at h
      rcases stay_eq kept e with stays | stays
      · rw [stays] at h
        exact List.mem_append_left _ (h ▸ ih before)
      · rw [stays] at h
        exact List.mem_append_right _ (h ▸ List.mem_singleton_self _)

theorem survivor_key_le {copies : List Event} {k : Event} (h : survivor copies = some k) :
    ∀ c ∈ copies, k.orderKey ≤ c.orderKey := by
  induction copies using List.reverseRecOn generalizing k with
  | nil => cases h
  | append_singleton copies e ih =>
    rw [survivor_append_singleton, Option.some.injEq] at h
    intro c member
    rw [List.mem_append, List.mem_singleton] at member
    cases before : survivor copies with
    | none =>
      rw [survivor_eq_none_iff.mp before] at member
      rw [before, Option.elim_none] at h
      rcases member with member | rfl
      · cases member
      · rw [h]
    | some kept =>
      rw [before, Option.elim_some] at h
      subst h
      rcases member with member | rfl
      · exact le_trans (stay_key_le kept e).1 (ih before c member)
      · exact (stay_key_le kept c).2

theorem survivor_append_above {copies : List Event} {e : Event}
    (above : ∃ c ∈ copies, c.orderKey < e.orderKey) : survivor (copies ++ [e]) = survivor copies := by
  obtain ⟨c, member, less⟩ := above
  cases before : survivor copies with
  | none =>
    rw [survivor_eq_none_iff.mp before] at member
    cases member
  | some kept =>
    have above := lt_of_le_of_lt (survivor_key_le before c member) less
    rw [survivor_append_singleton, before, Option.elim_some, stay, not_supersedes_of_gt above,
      if_neg Bool.false_ne_true]

theorem survivor_append_below {copies : List Event} {e : Event}
    (below : ∀ c ∈ copies, e.orderKey < c.orderKey) : survivor (copies ++ [e]) = some e := by
  rw [survivor_append_singleton]
  cases before : survivor copies with
  | none => rfl
  | some kept =>
    have below := below kept (survivor_mem before)
    rw [Option.elim_some, stay, if_pos (supersedes_of_lt below)]

/-- Only the copies of the least key have a say in which copy is left. -/
theorem survivor_eq_filter_key {copies : List Event} {key : OrderKey}
    (least : ∀ c ∈ copies, key ≤ c.orderKey) (reached : ∃ c ∈ copies, c.orderKey = key) :
    survivor copies = survivor (copies.filter fun c => c.orderKey = key) := by
  induction copies using List.reverseRecOn with
  | nil => rfl
  | append_singleton copies e ih =>
    have leastBefore : ∀ c ∈ copies, key ≤ c.orderKey :=
      fun c member => least c (List.mem_append_left _ member)
    have leastLast : key ≤ e.orderKey := least e (List.mem_append_right _ (List.mem_singleton_self _))
    rw [List.filter_append, List.filter_cons, List.filter_nil]
    by_cases reachedBefore : ∃ c ∈ copies, c.orderKey = key
    · have same := ih leastBefore reachedBefore
      by_cases level : e.orderKey = key
      · rw [if_pos (decide_eq_true level), survivor_append_singleton, survivor_append_singleton, same]
      · obtain ⟨c, member, reaches⟩ := reachedBefore
        have above : c.orderKey < e.orderKey := by
          rw [reaches]
          exact lt_of_le_of_ne leastLast (Ne.symm level)
        rw [if_neg (by simpa using level), List.append_nil, ← same,
          survivor_append_above ⟨c, member, above⟩]
    · have level : e.orderKey = key := by
        obtain ⟨c, member, reaches⟩ := reached
        rw [List.mem_append, List.mem_singleton] at member
        rcases member with member | rfl
        · exact absurd ⟨c, member, reaches⟩ reachedBefore
        · exact reaches
      have unreached : ∀ c ∈ copies, ¬ c.orderKey = key :=
        fun c member reaches => reachedBefore ⟨c, member, reaches⟩
      have below : ∀ c ∈ copies, e.orderKey < c.orderKey := by
        intro c member
        rw [level]
        exact lt_of_le_of_ne (leastBefore c member) (Ne.symm (unreached c member))
      have dropped : (copies.filter fun c => c.orderKey = key) = [] :=
        List.filter_eq_nil_iff.mpr fun c member => by simpa using unreached c member
      rw [survivor_append_below below, dropped, if_pos (decide_eq_true level)]
      rfl

theorem find?_keep (kept : List Event) (e : Event) (id : EventId) :
    ((keep kept e).find? fun k => k.id = id) =
      if e.id = id then some ((kept.find? fun k => k.id = id).elim e (stay · e))
      else kept.find? fun k => k.id = id := by
  induction kept with
  | nil => by_cases here : e.id = id <;> simp [keep, here]
  | cons k rest ih =>
    rw [keep]
    by_cases found : k.id = e.id
    · have stays : (stay k e).id = e.id := by
        rcases stay_eq k e with stays | stays
        · rw [stays, found]
        · rw [stays]
      rw [if_pos found]
      change ((stay k e :: rest).find? fun k => k.id = id) = _
      by_cases here : e.id = id <;> simp [stays, found, here]
    · rw [if_neg found]
      by_cases first : k.id = id
      · have elsewhere : ¬ e.id = id := fun here => found (first.trans here.symm)
        simp [first, elsewhere]
      · simp [first, ih]

theorem keep_ids (kept : List Event) (e : Event) :
    (keep kept e).map Event.id =
      if e.id ∈ kept.map Event.id then kept.map Event.id else kept.map Event.id ++ [e.id] := by
  induction kept with
  | nil => simp [keep]
  | cons k rest ih =>
    rw [keep]
    by_cases found : k.id = e.id
    · rcases stay_eq k e with stays | stays <;> unfold stay at stays <;> simp [found, stays]
    · have elsewhere : ¬ e.id = k.id := fun h => found h.symm
      simp only [if_neg found, List.map_cons, ih, List.mem_cons, elsewhere, false_or]
      split <;> rfl

theorem mem_keep {kept : List Event} {e a : Event} (member : a ∈ keep kept e) :
    a ∈ kept ∨ a = e := by
  induction kept with
  | nil => exact Or.inr (List.mem_singleton.mp member)
  | cons k rest ih =>
    rw [keep] at member
    split at member
    · rcases List.mem_cons.mp member with rfl | member
      · rcases stay_eq k e with stays | stays <;> unfold stay at stays <;> rw [stays]
        · exact Or.inl List.mem_cons_self
        · exact Or.inr rfl
      · exact Or.inl (List.mem_cons_of_mem _ member)
    · rcases List.mem_cons.mp member with rfl | member
      · exact Or.inl List.mem_cons_self
      · exact (ih member).imp_left (List.mem_cons_of_mem _)

theorem dedup_append_singleton (events : List Event) (e : Event) :
    dedup (events ++ [e]) = keep (dedup events) e := by
  simp only [dedup, List.foldl_append, List.foldl_cons, List.foldl_nil]

theorem mem_of_mem_dedup {events : List Event} {a : Event} (member : a ∈ dedup events) :
    a ∈ events := by
  induction events using List.reverseRecOn with
  | nil => cases member
  | append_singleton events e ih =>
    rw [dedup_append_singleton] at member
    rw [List.mem_append, List.mem_singleton]
    exact (mem_keep member).imp_left ih

theorem mem_dedup_ids {events : List Event} {id : EventId} :
    id ∈ (dedup events).map Event.id ↔ id ∈ events.map Event.id := by
  induction events using List.reverseRecOn with
  | nil => rfl
  | append_singleton events e ih =>
    rw [dedup_append_singleton, keep_ids, List.map_append, List.mem_append, ← ih]
    split
    · rename_i present
      rw [List.map_singleton, List.mem_singleton]
      constructor
      · exact Or.inl
      · rintro (member | rfl)
        · exact member
        · exact present
    · rw [List.mem_append, List.map_singleton]

theorem dedup_ids_nodup (events : List Event) : ((dedup events).map Event.id).Nodup := by
  induction events using List.reverseRecOn with
  | nil => exact List.nodup_nil
  | append_singleton events e ih =>
    rw [dedup_append_singleton, keep_ids]
    split
    · exact ih
    · rename_i absent
      exact List.nodup_append.mpr ⟨ih, List.nodup_singleton _, fun a member b last same => by
        rw [List.mem_singleton.mp last] at same
        exact absent (same ▸ member)⟩

/-- The representative of an id depends on the copies of that id alone. -/
theorem find?_dedup (events : List Event) (id : EventId) :
    ((dedup events).find? fun k => k.id = id) = survivor (events.filter fun e => e.id = id) := by
  induction events using List.reverseRecOn with
  | nil => rfl
  | append_singleton events e ih =>
    rw [dedup_append_singleton, find?_keep, ih, List.filter_append, List.filter_cons, List.filter_nil]
    by_cases here : e.id = id
    · rw [if_pos here, if_pos (decide_eq_true here), survivor_append_singleton]
    · rw [if_neg here, if_neg (by simpa using here), List.append_nil]

theorem find?_id_eq_some_iff {kept : List Event} (distinct : (kept.map Event.id).Nodup) (e : Event) :
    (kept.find? fun k => k.id = e.id) = some e ↔ e ∈ kept := by
  constructor
  · exact List.mem_of_find?_eq_some
  · intro member
    induction kept with
    | nil => cases member
    | cons k rest ih =>
      rw [List.map_cons, List.nodup_cons] at distinct
      rcases List.mem_cons.mp member with rfl | member
      · simp
      · have elsewhere : ¬ k.id = e.id :=
          fun same => distinct.1 (same ▸ List.mem_map_of_mem member)
        rw [List.find?_cons_of_neg (by simpa using elsewhere)]
        exact ih distinct.2 member

theorem mem_dedup_iff {events : List Event} {e : Event} :
    e ∈ dedup events ↔ survivor (events.filter fun c => c.id = e.id) = some e := by
  rw [← find?_dedup, find?_id_eq_some_iff (dedup_ids_nodup events)]

theorem filter_id_filter_key (events : List Event) (key : OrderKey) :
    ((events.filter fun e => e.id = key.id).filter fun e => e.orderKey = key) =
      events.filter fun e => e.orderKey = key := by
  rw [List.filter_filter]
  congr 1
  funext e
  rw [← Bool.decide_and, decide_eq_decide]
  exact ⟨And.left, fun level => ⟨level, congrArg OrderKey.id level⟩⟩

theorem survivor_id_eq_key {events : List Event} {e : Event}
    (least : ∀ c ∈ events, c.id = e.id → e.orderKey ≤ c.orderKey) (member : e ∈ events) :
    survivor (events.filter fun c => c.id = e.id) =
      survivor (events.filter fun c => c.orderKey = e.orderKey) := by
  rw [← filter_id_filter_key events e.orderKey]
  apply survivor_eq_filter_key
  · intro c copy
    exact least c (List.mem_filter.mp copy).1 (of_decide_eq_true (List.mem_filter.mp copy).2)
  · exact ⟨e, List.mem_filter.mpr ⟨member, decide_eq_true rfl⟩, rfl⟩

theorem dedup_key_le {events : List Event} {e : Event} (member : e ∈ dedup events) :
    ∀ c ∈ events, c.id = e.id → e.orderKey ≤ c.orderKey := fun c copy same =>
  survivor_key_le (mem_dedup_iff.mp member) c (List.mem_filter.mpr ⟨copy, decide_eq_true same⟩)

theorem mem_dedup_iff_key {events : List Event} {e : Event} :
    e ∈ dedup events ↔ (∀ c ∈ events, c.id = e.id → e.orderKey ≤ c.orderKey) ∧
      survivor (events.filter fun c => c.orderKey = e.orderKey) = some e := by
  constructor
  · intro member
    refine ⟨dedup_key_le member, ?_⟩
    rw [← survivor_id_eq_key (dedup_key_le member) (mem_of_mem_dedup member)]
    exact mem_dedup_iff.mp member
  · rintro ⟨least, left⟩
    have member : e ∈ events := (List.mem_filter.mp (survivor_mem left)).1
    rw [mem_dedup_iff, survivor_id_eq_key least member, left]

end EventLedger.Event
