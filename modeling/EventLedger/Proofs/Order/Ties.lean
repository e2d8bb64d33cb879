import EventLedger.Proofs.Order.Best

/-! When the copy that is kept depends on the order of arrival: exactly when a best copy is the same as
another copy, which takes two zeros of different signs. -/

namespace EventLedger.Event

/-- The text of the copy that stands for an id. -/
def textOf? (kept : List Event) (id : EventId) : Option String :=
  (kept.find? fun k => k.id = id).map text

theorem textOf?_eq_text_iff {kept : List Event} (distinct : (kept.map Event.id).Nodup) (b : Event) :
    textOf? kept b.id = some b.text ↔ b ∈ kept := by
  rw [textOf?, ← find?_id_eq_some_iff distinct, Option.map_eq_some_iff]
  constructor
  · rintro ⟨k, found, same⟩
    rw [found, text_injective same]
  · exact fun found => ⟨b, found, rfl⟩

theorem find?_id_congr {left right : List Event} (hl : (left.map Event.id).Nodup)
    (hr : (right.map Event.id).Nodup) (h : ∀ e, e ∈ left ↔ e ∈ right) (id : EventId) :
    (left.find? fun k => k.id = id) = right.find? fun k => k.id = id := by
  ext e
  constructor
  · intro found
    have here : e.id = id := by simpa using List.find?_some found
    subst here
    exact (find?_id_eq_some_iff hr e).mpr ((h e).mp ((find?_id_eq_some_iff hl e).mp found))
  · intro found
    have here : e.id = id := by simpa using List.find?_some found
    subst here
    exact (find?_id_eq_some_iff hl e).mpr ((h e).mpr ((find?_id_eq_some_iff hr e).mp found))

theorem textOf?_canonicalize (events : List Event) (id : EventId) :
    textOf? (canonicalize events) id = textOf? (dedup events) id := by
  rw [textOf?, textOf?, find?_id_congr (canonicalize_ids_nodup events) (dedup_ids_nodup events)
    (fun _ => mem_canonicalize) id]

theorem textOf?_congr {xs ys : List Event} (decided : Decided xs) (h : ∀ e, e ∈ ys ↔ e ∈ xs)
    (id : EventId) : textOf? (dedup ys) id = textOf? (dedup xs) id := by
  have kept (e : Event) : e ∈ dedup ys ↔ e ∈ dedup xs := by
    rw [mem_dedup_iff_best decided, mem_dedup_iff_best ((decided_congr h).mpr decided), best_congr h]
  rw [textOf?, textOf?, find?_id_congr (dedup_ids_nodup ys) (dedup_ids_nodup xs) kept id]

/-- The events with the copies of one text brought to the front. -/
def advance (b : Event) (events : List Event) : List Event :=
  (events.filter fun e => e.text = b.text) ++ events.filter fun e => !decide (e.text = b.text)

theorem advance_perm (b : Event) (events : List Event) : (advance b events).Perm events :=
  List.filter_append_perm _ _

theorem eq_of_mem_front {b c : Event} {events : List Event}
    (member : c ∈ events.filter fun e => e.text = b.text) : c = b :=
  text_injective (of_decide_eq_true (List.mem_filter.mp member).2)

theorem ne_of_mem_back {b c : Event} {events : List Event}
    (member : c ∈ events.filter fun e => !decide (e.text = b.text)) : c ≠ b := by
  rintro rfl
  simpa using (List.mem_filter.mp member).2

theorem survivor_of_eq {copies : List Event} {b : Event} (member : b ∈ copies)
    (all : ∀ c ∈ copies, c = b) : survivor copies = some b := by
  cases left : survivor copies with
  | none =>
    rw [survivor_eq_none_iff.mp left] at member
    cases member
  | some k => rw [all k (survivor_mem left)]

theorem survivor_append {front back : List Event} {k e : Event} (h : survivor front = some k)
    (left : survivor (front ++ back) = some e) : e = k ∨ e ∈ back := by
  induction back using List.reverseRecOn generalizing e with
  | nil =>
    rw [List.append_nil, h] at left
    exact Or.inl (Option.some.inj left).symm
  | append_singleton back c ih =>
    rw [← List.append_assoc, survivor_append_singleton] at left
    cases before : survivor (front ++ back) with
    | none =>
      rw [before] at left
      exact Or.inr (List.mem_append_right _ (List.mem_singleton.mpr (Option.some.inj left).symm))
    | some k' =>
      rw [before, Option.elim_some, Option.some.injEq] at left
      rcases stay_eq k' c with stays | stays
      · rw [stays] at left
        exact (ih (left ▸ before)).imp_right (List.mem_append_left _)
      · rw [stays] at left
        exact Or.inr (List.mem_append_right _ (List.mem_singleton.mpr left.symm))

theorem best_mem_dedup_advance {events : List Event} {b : Event} (hb : Best events b) :
    b ∈ dedup (advance b events) := by
  have best := (best_congr (fun e => (advance_perm b events).mem_iff (a := e)) b).mpr hb
  rw [mem_dedup_iff_key]
  refine ⟨fun c member id => key_le_of_rank_le (best.2 c member id), ?_⟩
  rw [advance, List.filter_append]
  refine survivor_append_of_stays (survivor_of_eq ?_ ?_) ?_
  · exact List.mem_filter.mpr ⟨List.mem_filter.mpr ⟨hb.1, by simp⟩, by simp⟩
  · exact fun c member => eq_of_mem_front (List.mem_filter.mp member).1
  · intro c member
    obtain ⟨back, level⟩ := List.mem_filter.mp member
    have level : c.orderKey = b.orderKey := of_decide_eq_true level
    have present := (List.mem_filter.mp back).1
    exact not_supersedes_of_text_le level
      (text_le_of_rank_le (hb.2 c present (congrArg OrderKey.id level)) level.symm)

theorem not_supersedes_of_same {e kept : Event} (same : e.same kept = true) :
    e.supersedes kept = false := by
  rw [← Bool.not_eq_true, supersedes_level (orderKey_eq_of_same same), same]
  exact fun above => Bool.false_ne_true above.1.symm

/-- A copy does not take the place of one that it is the same as, and what arrives later is another. -/
theorem survivor_ne_of_same {front middle back : List Event} {a b : Event} (same : b.same a = true)
    (other : a ≠ b) (first : survivor front = some a) (next : ∀ c ∈ middle, c = b)
    (last : ∀ c ∈ back, c ≠ b) : survivor (front ++ (middle ++ back)) ≠ some b := by
  intro left
  have holds : survivor (front ++ middle) = some a := by
    refine survivor_append_of_stays first fun c member => ?_
    rw [next c member, not_supersedes_of_same same]
  rw [← List.append_assoc] at left
  rcases survivor_append holds left with level | member
  · exact other level.symm
  · exact last b member rfl

theorem not_mem_dedup_advance {events : List Event} {a b : Event} (member : a ∈ events)
    (same : b.same a = true) (other : a ≠ b) : b ∉ dedup (advance a (advance b events)) := by
  intro kept
  have left := (mem_dedup_iff_key.mp kept).2
  -- the copies with the text of `a` arrive first, then those with the text of `b`, then the others
  rw [advance, List.filter_append] at left
  nth_rewrite 2 [advance] at left
  rw [List.filter_append, List.filter_append] at left
  refine survivor_ne_of_same same other (survivor_of_eq ?_ ?_) ?_ ?_ left
  · have present := (advance_perm b events).mem_iff.mpr member
    exact List.mem_filter.mpr ⟨List.mem_filter.mpr ⟨present, by simp⟩,
      decide_eq_true (orderKey_eq_of_same same).symm⟩
  · exact fun c member => eq_of_mem_front (List.mem_filter.mp member).1
  · exact fun c member => eq_of_mem_front (List.mem_filter.mp (List.mem_filter.mp member).1).1
  · exact fun c member => ne_of_mem_back (List.mem_filter.mp (List.mem_filter.mp member).1).1

theorem decided_of_textOf? {events : List Event}
    (h : ∀ ys, ys.Perm events → ∀ id, textOf? (dedup ys) id = textOf? (dedup events) id) :
    Decided events := by
  intro b hb a member same
  by_contra other
  have first := h _ (advance_perm b events) b.id
  have second := h _ ((advance_perm a _).trans (advance_perm b events)) b.id
  rw [(textOf?_eq_text_iff (dedup_ids_nodup _) b).mpr (best_mem_dedup_advance hb)] at first
  rw [← first, textOf?_eq_text_iff (dedup_ids_nodup _)] at second
  exact not_mem_dedup_advance member same other second

/-- The text kept for each id does not depend on the order of arrival exactly when every best copy is
    told apart from all others. Then repetitions do not matter either. -/
theorem kept_text_order_independent_iff (events : List Event) :
    ((∀ ys, ys.Perm events → ∀ id, textOf? (dedup ys) id = textOf? (dedup events) id) ↔
        Decided events) ∧
      ((∀ ys, ys.Perm events → ∀ id, textOf? (canonicalize ys) id = textOf? (canonicalize events) id) ↔
        Decided events) ∧
      (Decided events → ∀ ys, (∀ e, e ∈ ys ↔ e ∈ events) → ∀ id,
        textOf? (dedup ys) id = textOf? (dedup events) id ∧
          textOf? (canonicalize ys) id = textOf? (canonicalize events) id) := by
  have kept : (∀ ys, ys.Perm events → ∀ id, textOf? (dedup ys) id = textOf? (dedup events) id) ↔
      Decided events :=
    ⟨decided_of_textOf?, fun decided ys perm => textOf?_congr decided fun e => perm.mem_iff⟩
  refine ⟨kept, ?_, fun decided ys h id => ?_⟩
  · simp only [textOf?_canonicalize]
    exact kept
  · rw [textOf?_canonicalize, textOf?_canonicalize]
    exact ⟨textOf?_congr decided h id, textOf?_congr decided h id⟩

theorem stay_of_text_le {kept e : Event} (level : e.orderKey = kept.orderKey)
    (le : e.text ≤ kept.text) : stay kept e = kept := by
  rw [stay, not_supersedes_of_text_le level le, if_neg Bool.false_ne_true]

theorem stay_of_same {kept e : Event} (same : e.same kept = true) : stay kept e = kept := by
  rw [stay, not_supersedes_of_same same, if_neg Bool.false_ne_true]

theorem stay_of_text_lt {kept e : Event} (level : e.orderKey = kept.orderKey)
    (other : e.same kept = false) (less : kept.text < e.text) : stay kept e = e := by
  rw [stay, if_pos ((supersedes_level level).mpr ⟨other, less⟩)]

theorem dedup_three {a b c : Event} (hb : b.id = a.id) (hc : c.id = a.id) :
    dedup [a, b, c] = [stay (stay a b) c] := by
  have second : (stay a b).id = c.id := by
    rcases stay_eq a b with stays | stays
    · rw [stays, hc]
    · rw [stays, hb, hc]
  change keep (keep [a] b) c = _
  rw [keep, if_pos hb.symm]
  change keep [stay a b] c = _
  rw [keep, if_pos second]
  rfl

def reading (level : Json) : Event where
  id := ⟨"e"⟩
  eventType := "MissionStarted"
  aggregateId := "m"
  timestamp := ⟨2026, 1, 1, 0, 0, 0, 0, by decide, by decide, by decide, by decide, by decide⟩
  nodeId := "n"
  lamportClock := 1
  causationId := none
  correlationId := ""
  projectUuid := none
  projectSlug := none
  schemaVersion := currentSchemaVersion
  payload := .object [("level", level)]

/-- Of two readings of one time the one with the greater text is kept, and later copies are not. -/
theorem best_reading {events : List Event} (present : reading (.int 3) ∈ events)
    (others : ∀ c ∈ events, c.id = ⟨"e"⟩ →
      c = reading (.int 3) ∨ c = reading (.int 1) ∨ 1 < c.lamportClock) :
    Best events (reading (.int 3)) := by
  refine ⟨present, fun c member id => ?_⟩
  rcases others c member id with rfl | rfl | later
  · exact le_rfl
  · have less : (reading (.int 1)).text < (reading (.int 3)).text :=
      Json.text_lt_iff.mpr (by decide +kernel)
    exact rank_le_iff.mpr (.inr ⟨rfl, le_of_lt less⟩)
  · refine rank_le_iff.mpr (.inl ((OrderKey.before_iff_lt _ _).mp ?_))
    have before : (reading (.int 3)).orderKey.clock < c.orderKey.clock := later
    simp [OrderKey.before, before]

/-- The greatest text is kept if its copy arrives first, but not after the copy with the other zero. -/
theorem kept_text_of_zeros :
    let signed := reading (.number (.float Binary64.zero.negate))
    let high := reading (.number (.float .zero))
    let low := reading (.int (-1))
    [high, signed, low].Perm [signed, high, low] ∧ signed.text < high.text ∧ low.text < high.text ∧
      textOf? (dedup [high, signed, low]) ⟨"e"⟩ = some high.text ∧
      textOf? (dedup [signed, high, low]) ⟨"e"⟩ = some low.text := by
  intro signed high low
  have signedHigh : signed.text < high.text := Json.text_lt_iff.mpr (by decide +kernel)
  have lowHigh : low.text < high.text := Json.text_lt_iff.mpr (by decide +kernel)
  have signedLow : signed.text < low.text := Json.text_lt_iff.mpr (by decide +kernel)
  have keepsHigh : stay high signed = high := stay_of_text_le rfl (le_of_lt signedHigh)
  have keepsHigh' : stay high low = high := stay_of_text_le rfl (le_of_lt lowHigh)
  have keepsSigned : stay signed high = signed := stay_of_same (by decide)
  have takesLow : stay signed low = low := stay_of_text_lt rfl (by decide) signedLow
  have highFirst : dedup [high, signed, low] = [stay (stay high signed) low] :=
    dedup_three rfl rfl
  have signedFirst : dedup [signed, high, low] = [stay (stay signed high) low] :=
    dedup_three rfl rfl
  rw [highFirst, signedFirst, keepsHigh, keepsHigh', keepsSigned, takesLow]
  exact ⟨List.Perm.swap _ _ _, signedHigh, lowHigh, rfl, rfl⟩

end EventLedger.Event
