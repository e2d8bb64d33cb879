import EventLedger.Merge.Replicated
import EventLedger.Proofs.GrowSet
import EventLedger.Proofs.Order.Ties
import EventLedger.Proofs.Reduction.Folding

/-! Sets merged from two logs are the set merged from both, as long as the logs agree on what they have
in common. -/

namespace EventLedger.Event

variable {a b events xs ys : List Event} {field : String} {id : EventId}

theorem find?_canonicalize (events : List Event) (id : EventId) :
    ((canonicalize events).find? fun k => k.id = id) = survivor (events.filter fun e => e.id = id) := by
  rw [find?_id_congr (canonicalize_ids_nodup events) (dedup_ids_nodup events)
    (fun _ => mem_canonicalize) id, find?_dedup]

/-- The value under a field that counts for an id: that of the copy kept. -/
def valueOf? (events : List Event) (field : String) (id : EventId) : Option Json :=
  ((canonicalize events).find? fun k => k.id = id).bind fun k => k.payload.get? field

theorem valueOf?_of_copies
    (copies : (xs.filter fun c => c.id = id) = ys.filter fun c => c.id = id) :
    valueOf? xs field id = valueOf? ys field id := by
  rw [valueOf?, valueOf?, find?_canonicalize, find?_canonicalize, copies]

theorem filter_id_eq_nil (absent : id ∉ events.map Event.id) :
    (events.filter fun c => c.id = id) = [] := by
  refine List.filter_eq_nil_iff.mpr fun c member same => absent ?_
  rw [← of_decide_eq_true same]
  exact List.mem_map_of_mem member

theorem valueOf?_of_absent (absent : id ∉ events.map Event.id) : valueOf? events field id = none := by
  rw [valueOf?, find?_canonicalize, filter_id_eq_nil absent]
  rfl

theorem valueOf?_of_mem {e : Event} (kept : e ∈ canonicalize events) :
    valueOf? events field e.id = e.payload.get? field := by
  rw [valueOf?, (find?_id_eq_some_iff (canonicalize_ids_nodup events) e).mpr kept, Option.bind_some]

/-- Where all copies of an id have one value, it counts for the id. -/
theorem valueOf?_of_forall {value : Option Json} (present : id ∈ events.map Event.id)
    (same : ∀ e ∈ events, e.id = id → e.payload.get? field = value) :
    valueOf? events field id = value := by
  obtain ⟨k, kept, here⟩ := List.mem_map.mp (mem_canonicalize_ids.mpr present)
  rw [← here, valueOf?_of_mem kept]
  exact same k (mem_of_mem_canonicalize kept) here

theorem contains_foldl_extend {f : Event → List String} {x : String} (s : GrowSet) :
    (events.foldl (fun s e => s.extend (f e)) s).contains x = true ↔
      s.contains x = true ∨ ∃ e ∈ events, x ∈ f e := by
  induction events generalizing s with
  | nil => simp
  | cons e events ih =>
    simp only [List.foldl_cons, ih, GrowSet.contains_extend, List.mem_cons, or_and_right, exists_or,
      exists_eq_left, or_assoc]

/-- A merged set holds what the copies kept add to it. -/
theorem contains_mergeSet_iff_kept {x : String} :
    (mergeSet events field).contains x = true ↔
      ∃ e ∈ canonicalize events, x ∈ elements (e.payload.get? field) := by
  rw [mergeSet, contains_foldl_extend, or_iff_right GrowSet.not_contains_empty]

theorem contains_mergeSet {x : String} :
    (mergeSet events field).contains x = true ↔ ∃ id, x ∈ elements (valueOf? events field id) := by
  rw [contains_mergeSet_iff_kept]
  constructor
  · rintro ⟨e, kept, added⟩
    exact ⟨e.id, by rwa [valueOf?_of_mem kept]⟩
  · rintro ⟨id, added⟩
    by_cases present : id ∈ events.map Event.id
    · obtain ⟨k, kept, rfl⟩ := List.mem_map.mp (mem_canonicalize_ids.mpr present)
      rw [valueOf?_of_mem kept] at added
      exact ⟨k, kept, added⟩
    · rw [valueOf?_of_absent present] at added
      cases added

/-- Of an id that is in both logs, all copies have one value under the field. The copies may differ
    otherwise, and those of an id that is in one log only may differ in the field too. -/
def Agree (a b : List Event) (field : String) : Prop :=
  ∀ x ∈ a ++ b, ∀ y ∈ a ++ b, x.id = y.id → x.id ∈ a.map Event.id → x.id ∈ b.map Event.id →
    x.payload.get? field = y.payload.get? field

theorem Agree.symm (agree : Agree a b field) : Agree b a field := by
  intro x hx y hy same inB inA
  rw [List.mem_append, or_comm, ← List.mem_append] at hx hy
  exact agree x hx y hy same inA inB

theorem Agree.right {c : List Event} (agree : Agree (a ++ b) c field) : Agree b c field := by
  have within {e : Event} (member : e ∈ b ++ c) : e ∈ a ++ b ++ c := by
    rw [List.append_assoc]
    exact List.mem_append_right a member
  intro x hx y hy same inB inC
  refine agree x (within hx) y (within hy) same ?_ inC
  rw [List.map_append]
  exact List.mem_append_right _ inB

/-- An id has its value from one of the logs, and no other value in the other one. -/
theorem valueOf?_append (agree : Agree a b field) (id : EventId) :
    (valueOf? (a ++ b) field id = valueOf? a field id ∧
        (valueOf? b field id = none ∨ valueOf? b field id = valueOf? a field id)) ∨
      (valueOf? (a ++ b) field id = valueOf? b field id ∧ valueOf? a field id = none) := by
  by_cases inA : id ∈ a.map Event.id
  · by_cases inB : id ∈ b.map Event.id
    · obtain ⟨e, member, rfl⟩ := List.mem_map.mp inA
      have one (c : Event) (present : c ∈ a ++ b) (same : c.id = e.id) :
          c.payload.get? field = e.payload.get? field :=
        agree c present e (List.mem_append_left b member) same (same ▸ inA) (same ▸ inB)
      have both : e.id ∈ (a ++ b).map Event.id := List.mem_map_of_mem (List.mem_append_left b member)
      rw [valueOf?_of_forall both one,
        valueOf?_of_forall inA fun c present => one c (List.mem_append_left b present),
        valueOf?_of_forall inB fun c present => one c (List.mem_append_right a present)]
      exact .inl ⟨rfl, .inr rfl⟩
    · refine .inl ⟨valueOf?_of_copies ?_, .inl (valueOf?_of_absent inB)⟩
      rw [List.filter_append, filter_id_eq_nil inB, List.append_nil]
  · refine .inr ⟨valueOf?_of_copies ?_, valueOf?_of_absent inA⟩
    rw [List.filter_append, filter_id_eq_nil inA, List.nil_append]

theorem mergeSet_append (agree : Agree a b field) :
    mergeSet (a ++ b) field = (mergeSet a field).merge (mergeSet b field) := by
  refine GrowSet.ext_contains fun x => ?_
  rw [GrowSet.contains_merge, contains_mergeSet, contains_mergeSet, contains_mergeSet,
    ← exists_or]
  refine exists_congr fun id => ?_
  rcases valueOf?_append agree id with ⟨left, none | same⟩ | ⟨right, none⟩
  · rw [left, none]
    exact (or_iff_left List.not_mem_nil).symm
  · rw [left, same, or_self_iff]
  · rw [right, none]
    exact (or_iff_right List.not_mem_nil).symm

/-- Logs that agree on a field are merged into the union of their sets, which hold what the copies kept
    of each log add. So the order and the grouping of such logs do not matter, nor does repeating one,
    and no element is lost when events are added. -/
theorem mergeSet_union (a b : List Event) (field : String) (agree : Agree a b field) :
    mergeSet (a ++ b) field = (mergeSet a field).merge (mergeSet b field) ∧
      mergeSet (b ++ a) field = mergeSet (a ++ b) field ∧
      (∀ c, Agree (a ++ b) c field →
        mergeSet (a ++ b ++ c) field =
            ((mergeSet a field).merge (mergeSet b field)).merge (mergeSet c field) ∧
          mergeSet (a ++ b ++ c) field = (mergeSet a field).merge (mergeSet (b ++ c) field)) ∧
      (Agree a a field → mergeSet (a ++ a) field = mergeSet a field) ∧
      (∀ x, (mergeSet a field).contains x → (mergeSet (a ++ b) field).contains x) ∧
      ∀ x, (mergeSet (a ++ b) field).contains x ↔
        (∃ e ∈ canonicalize a, x ∈ elements (e.payload.get? field)) ∨
          ∃ e ∈ canonicalize b, x ∈ elements (e.payload.get? field) := by
  refine ⟨mergeSet_append agree, ?_, fun c agreeC => ?_, fun same => ?_, fun x held => ?_, fun x => ?_⟩
  · rw [mergeSet_append agree, mergeSet_append agree.symm, GrowSet.merge_comm]
  · rw [mergeSet_append agreeC, mergeSet_append agree, mergeSet_append agreeC.right,
      GrowSet.merge_assoc]
    exact ⟨rfl, rfl⟩
  · rw [mergeSet_append same, GrowSet.merge_self]
  · rw [mergeSet_append agree]
    exact GrowSet.contains_merge.mpr (.inl held)
  · rw [mergeSet_append agree, GrowSet.contains_merge, contains_mergeSet_iff_kept,
      contains_mergeSet_iff_kept]

/-- The logs keep different copies of the id that they share, and one of them has two copies of another
    id that disagree. -/
theorem mergeSet_union_tags :
    let event (id : String) (clock : Nat) (tags : List String) : Event :=
      Event.plain id clock "Tagged" (.object [("tags", .strings tags)])
    let a := [event "e" 5 ["x", "y"], event "f" 2 ["p"], event "f" 3 ["q"]]
    let b := [event "e" 2 ["x", "y"], event "g" 1 ["y", "z"]]
    Agree a b "tags" ∧
      mergeSet (a ++ b) "tags" = (mergeSet a "tags").merge (mergeSet b "tags") ∧
      mergeSet (b ++ a) "tags" = mergeSet (a ++ b) "tags" ∧
      ∀ x, (mergeSet (a ++ b) "tags").contains x ↔ x ∈ ["p", "x", "y", "z"] := by
  intro event a b
  have shared (id : EventId) (inA : id ∈ a.map Event.id) (inB : id ∈ b.map Event.id) : id = ⟨"e"⟩ := by
    simp only [a, b, List.map_cons, List.map_nil, List.mem_cons, List.not_mem_nil, or_false] at inA inB
    rcases inB with rfl | rfl
    · rfl
    · exact absurd inA (by decide)
  have tags (c : Event) (member : c ∈ a ++ b) (here : c.id = ⟨"e"⟩) :
      c.payload.get? "tags" = some (.strings ["x", "y"]) := by
    simp only [a, b, List.cons_append, List.nil_append, List.mem_cons, List.not_mem_nil, or_false]
      at member
    rcases member with rfl | rfl | rfl | rfl | rfl
    · rfl
    · exact absurd here (by decide)
    · exact absurd here (by decide)
    · rfl
    · exact absurd here (by decide)
  have agree : Agree a b "tags" := by
    intro x hx y hy same inA inB
    have here := shared x.id inA inB
    rw [tags x hx here, tags y hy (same ▸ here)]
  have keptA : canonicalize a = [event "f" 2 ["p"], event "e" 5 ["x", "y"]] :=
    canonicalize_eq_of_perm (by decide) (List.Perm.swap _ _ [])
  have keptB : canonicalize b = [event "g" 1 ["y", "z"], event "e" 2 ["x", "y"]] :=
    canonicalize_eq_of_perm (by decide) (List.Perm.swap _ _ [])
  obtain ⟨union, turned, -, -, -, held⟩ := mergeSet_union a b "tags" agree
  refine ⟨agree, union, turned, fun x => ?_⟩
  have tagged (id : String) (clock : Nat) (tags : List String) :
      elements ((event id clock tags).payload.get? "tags") = tags := by
    change ((tags.map Json.string).filter _).map elementText = tags
    rw [List.filter_eq_self.mpr (List.forall_mem_map.mpr fun _ _ => rfl), List.map_map]
    exact List.map_id tags
  rw [held, keptA, keptB]
  simp only [List.mem_cons, List.not_mem_nil, or_false, exists_eq_or_imp, exists_eq_left, tagged]
  tauto

end EventLedger.Event
