import EventLedger.Reduction.Basic
import Mathlib.Data.List.Nodup

/-! Lists of questions that wait for an answer, by the ids of their decisions. -/

namespace EventLedger.PendingDecision

variable {ds : List PendingDecision} {id : String}

def ids (ds : List PendingDecision) : List String := ds.map (·.decisionId)

@[simp] theorem ids_append (ds more : List PendingDecision) : ids (ds ++ more) = ids ds ++ ids more :=
  List.map_append

theorem any_id_iff : (ds.any fun d => d.decisionId == id) = true ↔ id ∈ ids ds := by
  simp only [ids, List.any_eq_true, beq_iff_eq, List.mem_map]

theorem nodup_concat {d : PendingDecision} (distinct : (ids ds).Nodup) (new : d.decisionId ∉ ids ds) :
    (ids (ds ++ [d])).Nodup := by
  rw [ids_append]
  exact (List.perm_append_singleton d.decisionId (ids ds)).nodup_iff.mpr
    (List.nodup_cons.mpr ⟨new, distinct⟩)

theorem nodup_eraseP (distinct : (ids ds).Nodup) (p : PendingDecision → Bool) :
    (ids (ds.eraseP p)).Nodup :=
  distinct.sublist (List.eraseP_sublist.map _)

theorem find?_id_eq_none : (ds.find? fun d => d.decisionId == id) = none ↔ id ∉ ids ds := by
  rw [List.find?_eq_none, ids, List.mem_map]
  simp

theorem length_eraseP_id (known : id ∈ ids ds) :
    (ds.eraseP fun d => d.decisionId == id).length + 1 = ds.length := by
  obtain ⟨d, member, same⟩ := List.mem_map.mp known
  exact List.length_eraseP_add_one member (beq_iff_eq.mpr same)

end EventLedger.PendingDecision
