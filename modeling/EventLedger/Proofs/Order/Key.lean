import EventLedger.Order.Basic
import Mathlib.Data.List.Sort
import Mathlib.Data.Prod.Lex
import Mathlib.Data.String.Basic

/-! Keys are in a linear order, and sorting by key is stable. -/

namespace EventLedger

namespace OrderKey

def lexicographic (k : OrderKey) : ℕ ×ₗ String ×ₗ String := toLex (k.clock, toLex (k.node, k.id.text))

theorem lexicographic_injective : Function.Injective lexicographic := by
  rintro ⟨c, n, ⟨i⟩⟩ ⟨d, m, ⟨j⟩⟩ h
  have parts : (c, toLex (n, i)) = (d, toLex (m, j)) := toLex.injective h
  have rest : (n, i) = (m, j) := toLex.injective (Prod.mk.inj parts).2
  rw [(Prod.mk.inj parts).1, (Prod.mk.inj rest).1, (Prod.mk.inj rest).2]

instance : LinearOrder OrderKey := LinearOrder.lift' lexicographic lexicographic_injective

theorem before_iff_lt (a b : OrderKey) : a.before b = true ↔ a < b := by
  change _ ↔ lexicographic a < lexicographic b
  simp only [lexicographic, Prod.Lex.toLex_lt_toLex, before, Bool.or_eq_true, Bool.and_eq_true,
    decide_eq_true_eq, beq_iff_eq]

theorem before_eq_decide (a b : OrderKey) : a.before b = decide (a < b) := by
  rw [Bool.eq_iff_iff, before_iff_lt, decide_eq_true_eq]

end OrderKey

namespace Event

theorem sort_perm (events : List Event) : (sort events).Perm events := List.mergeSort_perm _ _

theorem mem_sort {e : Event} {events : List Event} : e ∈ sort events ↔ e ∈ events :=
  (sort_perm events).mem_iff

def keyLe (a b : Event) : Bool := decide (a.orderKey ≤ b.orderKey)

theorem keyLe_trans (a b c : Event) (ab : keyLe a b) (bc : keyLe b c) : keyLe a c := by
  simp only [keyLe, decide_eq_true_eq] at *
  exact le_trans ab bc

theorem keyLe_total (a b : Event) : keyLe a b || keyLe b a := by
  simp only [keyLe, Bool.or_eq_true, decide_eq_true_eq]
  exact le_total _ _

theorem not_before_eq_keyLe : (fun a b : Event => !b.orderKey.before a.orderKey) = keyLe := by
  funext a b
  rw [OrderKey.before_eq_decide, keyLe, ← decide_not, decide_eq_decide]
  exact not_lt

theorem sort_eq_mergeSort (events : List Event) : sort events = events.mergeSort keyLe := by
  rw [sort, not_before_eq_keyLe]

theorem sort_ascending (events : List Event) :
    (sort events).Pairwise fun a b => a.orderKey ≤ b.orderKey := by
  rw [sort_eq_mergeSort]
  exact (List.pairwise_mergeSort keyLe_trans keyLe_total events).imp of_decide_eq_true

theorem merge_sorted {left right : List Event}
    (hl : left.Pairwise fun a b => a.orderKey ≤ b.orderKey)
    (hr : right.Pairwise fun a b => a.orderKey ≤ b.orderKey) :
    (left.merge right fun a b => !b.orderKey.before a.orderKey).Pairwise
      fun a b => a.orderKey ≤ b.orderKey := by
  rw [not_before_eq_keyLe]
  have merged := List.pairwise_merge keyLe_trans keyLe_total left right
    (hl.imp decide_eq_true) (hr.imp decide_eq_true)
  exact merged.imp of_decide_eq_true

/-- Sorting leaves the copies of one key in the order in which they were. -/
theorem filter_key_sort (events : List Event) (key : OrderKey) :
    ((sort events).filter fun e => e.orderKey = key) = events.filter fun e => e.orderKey = key := by
  have level : (events.filter fun e => e.orderKey = key).Pairwise fun a b => keyLe a b := by
    apply List.pairwise_of_forall_mem_list
    intro a ha b hb
    have ha := of_decide_eq_true (List.mem_filter.mp ha).2
    have hb := of_decide_eq_true (List.mem_filter.mp hb).2
    simp only [keyLe, ha, hb, le_refl, decide_true]
  have sub : (events.filter fun e => e.orderKey = key).Sublist (sort events) := by
    rw [sort_eq_mergeSort]
    exact List.sublist_mergeSort keyLe_trans keyLe_total level List.filter_sublist
  have again := sub.filter fun e => e.orderKey = key
  rw [List.filter_filter] at again
  simp only [Bool.and_self] at again
  exact (again.eq_of_length ((sort_perm events).filter _).length_eq.symm).symm

end Event
end EventLedger
