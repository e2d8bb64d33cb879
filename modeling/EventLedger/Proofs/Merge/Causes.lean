import EventLedger.Merge.Causality
import Mathlib.Data.List.Basic
import Mathlib.Data.List.Nodup
import Mathlib.Data.List.Perm.Subperm
import Mathlib.Logic.Relation

/-! Following causes through some events. It either ends, within as many steps as there are events, or
leads into a cycle. -/

namespace EventLedger.Event

open Relation

theorem causes_iff {c e : Event} : c.causes e = true ↔ e.causationId = some c.id ∧ c.id ≠ e.id := by
  simp [causes]

theorem id_eq_of_causes {c d e : Event} (hc : c.causes e) (hd : d.causes e) : c.id = d.id := by
  have same := (causes_iff.mp hc).1.symm.trans (causes_iff.mp hd).1
  exact Option.some.inj same

variable {events : List Event} {c d e : Event}

theorem mem_of_cause? (h : cause? events e = some c) : c ∈ events := List.mem_of_find?_eq_some h

theorem causes_of_cause? (h : cause? events e = some c) : c.causes e := by
  rw [cause?] at h
  exact List.find?_some (p := fun c : Event => c.causes e) h

/-- Where ids are not repeated, an event has one cause at most. -/
theorem cause?_eq_some_iff (distinct : (events.map Event.id).Nodup) :
    cause? events e = some c ↔ c ∈ events ∧ c.causes e := by
  refine ⟨fun h => ⟨mem_of_cause? h, causes_of_cause? h⟩, fun ⟨member, h⟩ => ?_⟩
  cases found : cause? events e with
  | none => exact absurd h (List.find?_eq_none.mp found c member)
  | some d =>
    have same := id_eq_of_causes (causes_of_cause? found) h
    rw [List.inj_on_of_nodup_map distinct (mem_of_cause? found) member same]

/-- Where one gets from an event by following causes so many times. -/
def follow (events : List Event) : Nat → Event → Option Event
  | 0, e => some e
  | n + 1, e => (cause? events e).bind (follow events n)

/-- Following causes from an event on ends: at one that names no cause, or one that is not among the
    events, or itself. -/
def Grounded (events : List Event) (e : Event) : Prop := ∃ n, follow events n e = none

def Caused (events : List Event) (c e : Event) : Prop := cause? events e = some c

def OnCycle (events : List Event) (e : Event) : Prop := TransGen (Caused events) e e

theorem follow_add (m n : Nat) (e : Event) :
    follow events (m + n) e = (follow events m e).bind (follow events n) := by
  induction m generalizing e with
  | zero => rw [Nat.zero_add, follow, Option.bind_some]
  | succ m ih =>
    rw [Nat.succ_add, follow, follow, Option.bind_assoc]
    congr 1
    funext c
    exact ih c

theorem follow_none_of_le {m n : Nat} (le : m ≤ n) (h : follow events m e = none) :
    follow events n e = none := by
  obtain ⟨k, rfl⟩ := Nat.exists_eq_add_of_le le
  rw [follow_add, h, Option.bind_none]

theorem mem_of_follow {n : Nat} (h : follow events (n + 1) e = some c) : c ∈ events := by
  rw [follow_add, Option.bind_eq_some_iff] at h
  obtain ⟨d, -, last⟩ := h
  rw [follow, Option.bind_eq_some_iff] at last
  obtain ⟨c', cause, here⟩ := last
  cases here
  exact mem_of_cause? cause

theorem grounded_iff : Grounded events e ↔ ∀ c, cause? events e = some c → Grounded events c := by
  constructor
  · rintro ⟨n, ends⟩ c cause
    cases n with
    | zero => cases ends
    | succ n =>
      rw [follow, cause, Option.bind_some] at ends
      exact ⟨n, ends⟩
  · intro next
    cases cause : cause? events e with
    | none => exact ⟨1, by rw [follow, cause, Option.bind_none]⟩
    | some c =>
      obtain ⟨n, ends⟩ := next c cause
      exact ⟨n + 1, by rw [follow, cause, Option.bind_some, ends]⟩

/-- What follows for an event from its cause holds of all grounded events. -/
theorem Grounded.rec_on_cause {motive : Event → Prop} (h : Grounded events e)
    (step : ∀ e, (∀ c, cause? events e = some c → motive c) → motive e) : motive e := by
  obtain ⟨n, ends⟩ := h
  induction n generalizing e with
  | zero => cases ends
  | succ n ih =>
    refine step e fun c cause => ih ?_
    rw [follow, cause, Option.bind_some] at ends
    exact ends

theorem Grounded.not_onCycle (h : Grounded events e) : ¬ OnCycle events e := by
  refine h.rec_on_cause (motive := fun e => ¬ OnCycle events e) fun e ih cycle => ?_
  obtain ⟨c, before, last⟩ := TransGen.tail'_iff.mp cycle
  exact ih c last (TransGen.head' last before)

theorem OnCycle.exists_effect (cycle : OnCycle events e) : ∃ x ∈ events, e.causes x := by
  obtain ⟨x, first, rest⟩ := TransGen.head'_iff.mp cycle
  refine ⟨x, ?_, causes_of_cause? first⟩
  rcases ReflTransGen.cases_head rest with rfl | ⟨y, next, -⟩
  · exact mem_of_cause? first
  · exact mem_of_cause? next

theorem Grounded.of_leads (h : Grounded events e) (leads : ReflTransGen (Caused events) c e) :
    Grounded events c := by
  induction leads with
  | refl => exact h
  | tail _ last ih => exact ih (grounded_iff.mp h _ last)

theorem leads_of_follow {n : Nat} (h : follow events n e = some c) :
    ReflTransGen (Caused events) c e := by
  induction n generalizing e with
  | zero => cases h; exact .refl
  | succ n ih =>
    rw [follow, Option.bind_eq_some_iff] at h
    obtain ⟨d, cause, rest⟩ := h
    exact (ih rest).tail cause

theorem cycle_of_follow {n : Nat} (h : follow events (n + 1) e = some e) : OnCycle events e := by
  rw [follow, Option.bind_eq_some_iff] at h
  obtain ⟨d, cause, rest⟩ := h
  exact TransGen.tail' (leads_of_follow rest) cause

/-- More steps than there are events lead somewhere twice. -/
theorem exists_repeat (h : follow events (events.length + 1) e ≠ none) :
    ∃ i j c, i < j ∧ follow events i e = some c ∧ follow events j e = some c := by
  have reached (i : Nat) (bound : i ≤ events.length) : ∃ c, follow events (i + 1) e = some c :=
    Option.ne_none_iff_exists'.mp fun ends => h (follow_none_of_le (Nat.succ_le_succ bound) ends)
  let visited := (List.range (events.length + 1)).map fun i => follow events (i + 1) e
  have inside : visited ⊆ events.map some := by
    intro x member
    obtain ⟨i, bound, rfl⟩ := List.mem_map.mp member
    obtain ⟨c, here⟩ := reached i (Nat.le_of_lt_succ (List.mem_range.mp bound))
    rw [here]
    exact List.mem_map_of_mem (mem_of_follow here)
  -- one step more than there are events to get to
  have crowded : ¬ visited.Nodup := by
    intro distinct
    have fits := distinct.length_le_of_subset inside
    rw [List.length_map, List.length_map, List.length_range] at fits
    omega
  rw [List.nodup_map_iff_inj_on List.nodup_range] at crowded
  push Not at crowded
  obtain ⟨i, bound, j, -, same, other⟩ := crowded
  obtain ⟨c, here⟩ := reached i (Nat.le_of_lt_succ (List.mem_range.mp bound))
  rcases Nat.lt_or_gt_of_ne other with less | less
  · exact ⟨i + 1, j + 1, c, Nat.succ_lt_succ less, here, same ▸ here⟩
  · exact ⟨j + 1, i + 1, c, Nat.succ_lt_succ less, same ▸ here, here⟩

theorem exists_cycle (h : follow events (events.length + 1) e ≠ none) :
    ∃ c, ReflTransGen (Caused events) c e ∧ OnCycle events c := by
  obtain ⟨i, j, c, less, first, again⟩ := exists_repeat h
  obtain ⟨k, rfl⟩ := Nat.exists_eq_add_of_lt less
  rw [Nat.add_assoc, follow_add, first, Option.bind_some] at again
  exact ⟨c, leads_of_follow first, cycle_of_follow again⟩

/-- An event is grounded exactly when no cycle leads to it. -/
theorem grounded_iff_no_cycle :
    Grounded events e ↔ ∀ c, ReflTransGen (Caused events) c e → ¬ OnCycle events c := by
  refine ⟨fun h c leads => (h.of_leads leads).not_onCycle, fun none => ?_⟩
  by_contra endless
  obtain ⟨c, leads, cycle⟩ := exists_cycle fun ends => endless ⟨_, ends⟩
  exact none c leads cycle

theorem grounded_iff_follow : Grounded events e ↔ follow events (events.length + 1) e = none := by
  refine ⟨fun h => ?_, fun ends => ⟨_, ends⟩⟩
  by_contra endless
  obtain ⟨c, leads, cycle⟩ := exists_cycle endless
  exact grounded_iff_no_cycle.mp h c leads cycle

instance : Decidable (Grounded events e) :=
  decidable_of_iff (follow events (events.length + 1) e).isNone
    (by rw [Option.isNone_iff_eq_none, grounded_iff_follow])

end EventLedger.Event
