import EventLedger.GrowSet
import EventLedger.Proofs.Index

/-! What a set holds after it has grown. -/

namespace EventLedger.GrowSet

variable {α : Type} [LinearOrder α] {s t : GrowSet α}

theorem toList_ascending (s : GrowSet α) : s.toList.Pairwise (· < ·) := s.index.names_ascending

theorem mem_toList {x : α} : x ∈ s.toList ↔ s.contains x = true := Index.mem_names

/-- A set is determined by what it contains. -/
theorem ext_contains (h : ∀ x, s.contains x = true ↔ t.contains x = true) : s = t := by
  refine congrArg mk (Index.ext_find? fun x => ?_)
  have same : (s.index.find? x).isSome = (t.index.find? x).isSome := Bool.eq_iff_iff.mpr (h x)
  cases inS : s.index.find? x <;> cases inT : t.index.find? x <;> simp_all

theorem contains_insert {x y : α} :
    (s.insert x).contains y = true ↔ x = y ∨ s.contains y = true := by
  rw [contains, Index.contains, insert, Index.find?_insert]
  by_cases same : x = y
  · simp [same]
  · rw [if_neg same, or_iff_right same]
    rfl

theorem contains_extend {xs : List α} {y : α} :
    (s.extend xs).contains y = true ↔ s.contains y = true ∨ y ∈ xs := by
  unfold extend
  induction xs generalizing s with
  | nil => simp
  | cons x xs ih =>
    rw [List.foldl_cons, ih, contains_insert, List.mem_cons, @eq_comm _ x]
    tauto

theorem extend_append (xs ys : List α) : s.extend (xs ++ ys) = (s.extend xs).extend ys :=
  List.foldl_append

theorem insert_of_contains {x : α} (held : s.contains x = true) : s.insert x = s := by
  obtain ⟨⟨⟩, found⟩ := Option.isSome_iff_exists.mp held
  exact congrArg mk (Index.insert_of_find? found)

/-- A set stays as it is exactly when nothing new is added. -/
theorem extend_eq_self_iff {xs : List α} :
    s.extend xs = s ↔ ∀ x ∈ xs, s.contains x = true := by
  constructor
  · intro same x member
    rw [← same]
    exact contains_extend.mpr (.inr member)
  · intro held
    induction xs with
    | nil => rfl
    | cons x xs ih =>
      have here : s.insert x = s := insert_of_contains (held x List.mem_cons_self)
      rw [extend, List.foldl_cons, here]
      exact ih fun y member => held y (List.mem_cons_of_mem x member)

theorem not_contains_empty {x : α} : ¬ (empty : GrowSet α).contains x = true := by
  intro held
  cases held

theorem contains_ofList {xs : List α} {x : α} :
    (ofList xs).contains x = true ↔ x ∈ xs := by
  rw [ofList, contains_extend, or_iff_right not_contains_empty]

theorem contains_merge {x : α} :
    (s.merge t).contains x = true ↔ s.contains x = true ∨ t.contains x = true := by
  rw [merge, contains_extend, mem_toList]

theorem merge_comm (s t : GrowSet α) : s.merge t = t.merge s :=
  ext_contains fun x => by rw [contains_merge, contains_merge, or_comm]

theorem merge_assoc (s t u : GrowSet α) : (s.merge t).merge u = s.merge (t.merge u) :=
  ext_contains fun x => by simp only [contains_merge, or_assoc]

theorem merge_self (s : GrowSet α) : s.merge s = s :=
  ext_contains fun x => by rw [contains_merge, or_self_iff]

end EventLedger.GrowSet
