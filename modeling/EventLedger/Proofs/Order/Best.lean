import EventLedger.Proofs.Event.Same
import EventLedger.Proofs.Event.Text
import EventLedger.Proofs.Order.Canonical
import Mathlib.Data.List.MinMax

/-! The copy of an id that no other copy outranks. Deduplication keeps it wherever it is not the same
as another copy with a text of its own. -/

namespace EventLedger.Event

/-- The place of a copy among the copies of its id: a smaller key comes first, then a greater text. -/
def rank (e : Event) : OrderKey ×ₗ Stringᵒᵈ := toLex (e.orderKey, OrderDual.toDual e.text)

theorem rank_injective : Function.Injective rank := by
  intro a b h
  have parts : (a.orderKey, OrderDual.toDual a.text) = (b.orderKey, OrderDual.toDual b.text) :=
    toLex.injective h
  exact text_injective (OrderDual.toDual.injective (Prod.mk.inj parts).2)

theorem rank_le_iff {a b : Event} :
    rank a ≤ rank b ↔ a.orderKey < b.orderKey ∨ a.orderKey = b.orderKey ∧ b.text ≤ a.text := by
  rw [rank, rank, Prod.Lex.toLex_le_toLex]
  rfl

theorem key_le_of_rank_le {a b : Event} (h : rank a ≤ rank b) : a.orderKey ≤ b.orderKey := by
  rcases rank_le_iff.mp h with less | ⟨level, -⟩
  · exact le_of_lt less
  · exact le_of_eq level

theorem text_le_of_rank_le {a b : Event} (h : rank a ≤ rank b) (level : a.orderKey = b.orderKey) :
    b.text ≤ a.text := by
  rcases rank_le_iff.mp h with less | ⟨-, le⟩
  · exact absurd level (ne_of_lt less)
  · exact le

/-- An event that no copy of its id outranks. -/
def Best (events : List Event) (b : Event) : Prop :=
  b ∈ events ∧ ∀ c ∈ events, c.id = b.id → rank b ≤ rank c

theorem Best.unique {events : List Event} {a b : Event} (ha : Best events a) (hb : Best events b)
    (id : a.id = b.id) : a = b :=
  rank_injective (le_antisymm (ha.2 b hb.1 id.symm) (hb.2 a ha.1 id))

theorem exists_best {events : List Event} {e : Event} (member : e ∈ events) :
    ∃ b, Best events b ∧ b.id = e.id := by
  let copies := events.filter fun c => c.id = e.id
  have copy : e ∈ copies := List.mem_filter.mpr ⟨member, decide_eq_true rfl⟩
  cases least : copies.argmin rank with
  | none =>
    rw [List.argmin_eq_none.mp least] at copy
    cases copy
  | some b =>
    obtain ⟨present, id⟩ := List.mem_filter.mp (List.argmin_mem least)
    have id := of_decide_eq_true id
    refine ⟨b, ⟨present, fun c other same => ?_⟩, id⟩
    have copy : c ∈ copies := List.mem_filter.mpr ⟨other, decide_eq_true (same.trans id)⟩
    exact List.le_of_mem_argmin copy least

theorem best_congr {xs ys : List Event} (h : ∀ e, e ∈ xs ↔ e ∈ ys) (b : Event) :
    Best xs b ↔ Best ys b := by
  unfold Best
  simp only [h]

theorem Best.subset {part events : List Event} {b : Event} (hb : Best events b)
    (sub : ∀ e ∈ part, e ∈ events) (member : b ∈ part) : Best part b :=
  ⟨member, fun c other => hb.2 c (sub c other)⟩

/-- A part of a list that holds all of its best copies has no others. -/
theorem best_iff_of_subset {part events : List Event} (sub : ∀ e ∈ part, e ∈ events)
    (held : ∀ b, Best events b → b ∈ part) (b : Event) : Best part b ↔ Best events b := by
  constructor
  · intro hb
    obtain ⟨a, ha, id⟩ := exists_best (sub b hb.1)
    rw [hb.unique (ha.subset sub (held a ha)) id.symm]
    exact ha
  · exact fun hb => hb.subset sub (held b hb)

/-- Every best copy is told apart from all others by value. -/
def Decided (events : List Event) : Prop :=
  ∀ b, Best events b → ∀ a ∈ events, b.same a = true → a = b

theorem decided_congr {xs ys : List Event} (h : ∀ e, e ∈ xs ↔ e ∈ ys) : Decided xs ↔ Decided ys := by
  unfold Decided
  simp only [h, best_congr h]

theorem Decided.of_subset {part events : List Event} (decided : Decided events)
    (sub : ∀ e ∈ part, e ∈ events) (held : ∀ b, Best events b → b ∈ part) : Decided part :=
  fun b hb a member => decided b ((best_iff_of_subset sub held b).mp hb) a (sub a member)

/-- Events that are the same by value are one event. Those of one text are in any case. -/
def Unmixed (events : List Event) : Prop :=
  ∀ a ∈ events, ∀ b ∈ events, a.same b = true → a = b

theorem Unmixed.subset {part events : List Event} (unmixed : Unmixed events)
    (sub : ∀ e ∈ part, e ∈ events) : Unmixed part :=
  fun a ha b hb => unmixed a (sub a ha) b (sub b hb)

theorem Unmixed.decided {events : List Event} (unmixed : Unmixed events) : Decided events :=
  fun b hb a member same => (unmixed b hb.1 a member same).symm

theorem unmixed_of_unsigned {events : List Event} (h : ∀ e ∈ events, e.unsigned = e) :
    Unmixed events := by
  intro a ha b hb same
  rw [same_iff, h a ha, h b hb] at same
  exact same

theorem orderKey_eq_of_same {a b : Event} (h : a.same b = true) : a.orderKey = b.orderKey := by
  simp only [same, Bool.and_eq_true, beq_iff_eq] at h
  simp only [orderKey, h]

theorem survivor_append_of_stays {front back : List Event} {k : Event} (h : survivor front = some k)
    (stays : ∀ c ∈ back, c.supersedes k = false) : survivor (front ++ back) = some k := by
  induction back using List.reverseRecOn with
  | nil => rw [List.append_nil, h]
  | append_singleton back c ih =>
    have before := ih fun d member => stays d (List.mem_append_left _ member)
    have last := stays c (List.mem_append_right _ (List.mem_singleton_self _))
    rw [← List.append_assoc, survivor_append_singleton, before, Option.elim_some, stay, last,
      if_neg Bool.false_ne_true]

theorem not_supersedes_of_text_le {e kept : Event} (level : e.orderKey = kept.orderKey)
    (le : e.text ≤ kept.text) : e.supersedes kept = false := by
  rw [← Bool.not_eq_true, supersedes_level level]
  exact fun above => absurd above.2 (not_lt.mpr le)

/-- Among copies of one key the greatest text is left, if its copy is the same as no other. -/
theorem survivor_eq_greatest {copies : List Event} {b : Event} (member : b ∈ copies)
    (level : ∀ c ∈ copies, c.orderKey = b.orderKey) (greatest : ∀ c ∈ copies, c.text ≤ b.text)
    (apart : ∀ a ∈ copies, b.same a = true → a = b) : survivor copies = some b := by
  induction copies using List.reverseRecOn with
  | nil => cases member
  | append_singleton copies e ih =>
    have last := List.mem_append_right copies (List.mem_singleton_self e)
    by_cases before : b ∈ copies
    · refine survivor_append_of_stays (ih before ?_ ?_ ?_) ?_
      · exact fun c member => level c (List.mem_append_left _ member)
      · exact fun c member => greatest c (List.mem_append_left _ member)
      · exact fun a member => apart a (List.mem_append_left _ member)
      · intro c member
        rw [List.mem_singleton.mp member]
        exact not_supersedes_of_text_le (level e last) (greatest e last)
    · have here : b = e := by
        rw [List.mem_append, List.mem_singleton] at member
        exact member.resolve_left before
      subst here
      rw [survivor_append_singleton]
      cases kept : survivor copies with
      | none => rfl
      | some k =>
        have present := survivor_mem kept
        have copy := List.mem_append_left [b] present
        have other : k ≠ b := fun same => before (same ▸ present)
        have apart : b.same k = false := by
          rw [← Bool.not_eq_true]
          exact fun same => other (apart k copy same)
        have less : k.text < b.text :=
          lt_of_le_of_ne (greatest k copy) fun same => other (text_injective same)
        rw [Option.elim_some, stay, if_pos ((supersedes_level (level k copy).symm).mpr ⟨apart, less⟩)]

theorem mem_dedup_of_best {events : List Event} {b : Event} (hb : Best events b)
    (apart : ∀ a ∈ events, b.same a = true → a = b) : b ∈ dedup events := by
  have copy (c : Event) (member : c ∈ events.filter fun c => c.orderKey = b.orderKey) :
      c ∈ events ∧ c.orderKey = b.orderKey :=
    ⟨(List.mem_filter.mp member).1, of_decide_eq_true (List.mem_filter.mp member).2⟩
  rw [mem_dedup_iff_key]
  refine ⟨fun c member id => key_le_of_rank_le (hb.2 c member id), survivor_eq_greatest ?_ ?_ ?_ ?_⟩
  · exact List.mem_filter.mpr ⟨hb.1, decide_eq_true rfl⟩
  · exact fun c member => (copy c member).2
  · intro c member
    obtain ⟨member, level⟩ := copy c member
    exact text_le_of_rank_le (hb.2 c member (congrArg OrderKey.id level)) level.symm
  · exact fun a member => apart a (copy a member).1

theorem mem_dedup_iff_best {events : List Event} (decided : Decided events) {e : Event} :
    e ∈ dedup events ↔ Best events e := by
  constructor
  · intro member
    obtain ⟨b, hb, id⟩ := exists_best (mem_of_mem_dedup member)
    have kept := mem_dedup_of_best hb (decided b hb)
    have same : e = b := by
      have first := (find?_id_eq_some_iff (dedup_ids_nodup events) e).mpr member
      rw [← id, (find?_id_eq_some_iff (dedup_ids_nodup events) b).mpr kept] at first
      exact (Option.some.inj first).symm
    rw [same]
    exact hb
  · exact fun hb => mem_dedup_of_best hb (decided e hb)

theorem mem_canonicalize_iff_best {events : List Event} (decided : Decided events) {e : Event} :
    e ∈ canonicalize events ↔ Best events e := mem_canonicalize.trans (mem_dedup_iff_best decided)

/-- Best copies in ascending order, one of each id, are the canonical sequence. -/
theorem canonicalize_eq_of_best {events kept : List Event} (decided : Decided events)
    (sorted : Ascending kept) (best : ∀ e ∈ kept, Best events e)
    (covers : ∀ e ∈ events, e.id ∈ kept.map Event.id) : canonicalize events = kept := by
  refine (canonicalize_ascending events).eq_of_mem_iff sorted fun e => ?_
  rw [mem_canonicalize_iff_best decided]
  constructor
  · intro he
    obtain ⟨k, member, same⟩ := List.mem_map.mp (covers e he.1)
    rwa [he.unique (best k member) same.symm]
  · exact best e

/-- Events that are left out of a log do not change its canonical sequence, as long as the best
    copies are there. -/
theorem canonicalize_of_subset {part events : List Event} (decided : Decided events)
    (sub : ∀ e ∈ part, e ∈ events) (held : ∀ b, Best events b → b ∈ part) :
    canonicalize part = canonicalize events := by
  refine (canonicalize_ascending part).eq_of_mem_iff (canonicalize_ascending events) fun e => ?_
  rw [mem_canonicalize_iff_best decided, mem_canonicalize_iff_best (decided.of_subset sub held),
    best_iff_of_subset sub held]

theorem canonicalize_congr {xs ys : List Event} (decided : Decided ys) (h : ∀ e, e ∈ xs ↔ e ∈ ys) :
    canonicalize xs = canonicalize ys :=
  canonicalize_of_subset decided (fun e => (h e).mp) fun b hb => (h b).mpr hb.1

end EventLedger.Event
