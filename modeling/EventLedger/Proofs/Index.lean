import EventLedger.Index
import Mathlib.Algebra.GroupWithZero.Nat
import Mathlib.Order.Basic
import Mathlib.Data.String.Basic
import Mathlib.Data.List.Induction
import Mathlib.Data.List.Sort

/-! An index is what can be looked up in it, and is made again of its entries. -/

namespace EventLedger

variable {α κ : Type} [LinearOrder κ]

theorem insertEntry_last {name : κ} {entries : List (κ × α)} (above : ∀ e ∈ entries, e.1 < name)
    (value : α) :
    insertEntry name value entries = entries ++ [(name, value)] := by
  induction entries with
  | nil => rfl
  | cons e entries ih =>
    have less := above e List.mem_cons_self
    have before : ¬ name < e.1 := lt_asymm less
    have other : name ≠ e.1 := ne_of_gt less
    rw [insertEntry, if_neg before, if_neg other, List.cons_append,
      ih fun d member => above d (List.mem_cons_of_mem _ member)]

theorem foldl_insertEntry {entries : List (κ × α)}
    (ascending : entries.Pairwise fun a b => a.1 < b.1) :
    entries.foldl (fun acc e => insertEntry e.1 e.2 acc) [] = entries := by
  induction entries using List.reverseRecOn with
  | nil => rfl
  | append_singleton entries e ih =>
    obtain ⟨before, -, last⟩ := List.pairwise_append.mp ascending
    rw [List.foldl_append, ih before, List.foldl_cons, List.foldl_nil]
    exact insertEntry_last (fun d member => last d member e (List.mem_singleton_self e)) e.2

theorem find?_of_above {name : κ} {entries : List (κ × α)} (above : ∀ e ∈ entries, name < e.1) :
    (entries.find? fun e => e.1 == name) = none := by
  refine List.find?_eq_none.mpr fun e member same => ?_
  exact absurd (above e member) (by rw [eq_of_beq same]; exact lt_irrefl name)

/-- What is set adds to a sum over the entries, less what stood there before. -/
theorem sum_insertEntry (name : κ) (value : α) {entries : List (κ × α)}
    (ascending : entries.Pairwise fun a b => a.1 < b.1) (f : α → Nat) :
    ((insertEntry name value entries).map fun e => f e.2).sum +
        ((entries.find? fun e => e.1 == name).map fun e => f e.2).getD 0 =
      (entries.map fun e => f e.2).sum + f value := by
  induction entries with
  | nil => simp [insertEntry]
  | cons e entries ih =>
    obtain ⟨k, v⟩ := e
    obtain ⟨above, rest⟩ := List.pairwise_cons.mp ascending
    rw [insertEntry]
    split
    · rename_i before
      have nowhere : (((k, v) :: entries).find? fun e => e.1 == name) = none := by
        refine find?_of_above fun e member => ?_
        rcases List.mem_cons.mp member with rfl | member
        · exact before
        · exact before.trans (above e member)
      rw [nowhere, List.map_cons, List.sum_cons]
      simp only [Option.map_none, Option.getD_none]
      omega
    · split
      · rename_i here
        subst here
        simp only [List.find?_cons, beq_self_eq_true, Option.map_some, Option.getD_some,
          List.map_cons, List.sum_cons]
        omega
      · rename_i elsewhere
        have other : (k == name) = false := by simpa using Ne.symm elsewhere
        have later := ih rest
        simp only [List.find?_cons, other, List.map_cons, List.sum_cons]
        omega

namespace Index

theorem ext_entries {x y : Index α κ} (h : x.entries = y.entries) : x = y := by
  cases x
  cases y
  cases h
  rfl

theorem mem_entries_iff {x : Index α κ} {name : κ} {value : α} :
    (name, value) ∈ x.entries ↔ x.find? name = some value := by
  obtain ⟨entries, ascending⟩ := x
  change _ ↔ (entries.find? fun e => e.1 == name).map (·.2) = some value
  induction entries with
  | nil => simp
  | cons e entries ih =>
    obtain ⟨above, rest⟩ := List.pairwise_cons.mp ascending
    rw [List.mem_cons, ih rest, List.find?_cons]
    by_cases here : e.1 = name
    · -- further on there are only greater names
      have nowhere : (entries.find? fun d => d.1 == name) = none :=
        find?_of_above fun d member => here ▸ above d member
      simp [here, nowhere, Prod.ext_iff, eq_comm]
    · have other : (e.1 == name) = false := by simpa using here
      simp only [other, Prod.ext_iff, Ne.symm here, false_and, false_or]

theorem mem_values {x : Index α κ} {name : κ} {value : α} (found : x.find? name = some value) :
    value ∈ x.values :=
  List.mem_map_of_mem (mem_entries_iff.mpr found)

theorem names_ascending (x : Index α κ) : x.names.Pairwise (· < ·) := List.pairwise_map.mpr x.ascending

theorem mem_names {x : Index α κ} {name : κ} : name ∈ x.names ↔ (x.find? name).isSome = true := by
  rw [names, List.mem_map, Option.isSome_iff_exists]
  constructor
  · rintro ⟨⟨_, value⟩, member, rfl⟩
    exact ⟨value, mem_entries_iff.mp member⟩
  · rintro ⟨value, found⟩
    exact ⟨(name, value), mem_entries_iff.mpr found, rfl⟩

/-- Where a value tells its own name, values that are chosen are told in the order of names. -/
theorem map_filter_values {x : Index α κ} {key : α → κ}
    (named : ∀ name a, x.find? name = some a → key a = name) (chosen : α → Bool) :
    (x.values.filter chosen).map key = x.names.filter fun name => (x.find? name).any chosen := by
  have kept : x.entries.filter (chosen ∘ (·.2)) =
      x.entries.filter ((fun name => (x.find? name).any chosen) ∘ (·.1)) := by
    refine List.filter_congr fun e member => ?_
    rw [Function.comp_apply, Function.comp_apply, mem_entries_iff.mp member]
    rfl
  rw [values, names, List.filter_map, List.filter_map, List.map_map, kept]
  refine List.map_congr_left fun e member => ?_
  exact named e.1 e.2 (mem_entries_iff.mp (List.mem_of_mem_filter member))

theorem values_eq (x : Index α κ) : x.values = x.names.filterMap x.find? := by
  rw [values, names, List.filterMap_map, ← List.filterMap_eq_map]
  refine List.filterMap_congr fun e member => ?_
  exact (mem_entries_iff.mp member).symm

theorem countP_values {β : Type} [DecidableEq β] (x : Index α κ) (f : α → β) (b : β) :
    (x.values.countP fun a => f a = b) = x.names.countP fun name => (x.find? name).map f = some b := by
  rw [values_eq, List.countP_filterMap]
  refine List.countP_congr fun name _ => ?_
  cases x.find? name <;> simp

/-- An index is determined by what can be looked up in it. -/
theorem ext_find? {x y : Index α κ} (h : ∀ name, x.find? name = y.find? name) : x = y := by
  have : Std.Irrefl fun a b : κ × α => a.1 < b.1 := ⟨fun _ => lt_irrefl _⟩
  have : Std.Antisymm fun a b : κ × α => a.1 < b.1 :=
    ⟨fun _ _ less greater => absurd greater (lt_asymm less)⟩
  refine ext_entries (x.ascending.eq_of_mem_iff y.ascending fun ⟨name, value⟩ => ?_)
  rw [mem_entries_iff, mem_entries_iff, h name]

theorem entries_ofList (entries : List (κ × α)) :
    (ofList entries).entries = entries.foldl (fun acc e => insertEntry e.1 e.2 acc) [] := by
  induction entries using List.reverseRecOn with
  | nil => rfl
  | append_singleton entries e ih =>
    rw [List.foldl_append, ← ih, ofList, List.foldl_append]
    rfl

theorem ofList_entries (x : Index α κ) : ofList x.entries = x :=
  ext_entries (by rw [entries_ofList, foldl_insertEntry x.ascending])

theorem find?_insertEntry (name other : κ) (value : α) (entries : List (κ × α)) :
    ((insertEntry name value entries).find? fun e => e.1 == other).map (·.2) =
      if name = other then some value else (entries.find? fun e => e.1 == other).map (·.2) := by
  induction entries with
  | nil => by_cases same : name = other <;> simp [insertEntry, same]
  | cons e entries ih =>
    obtain ⟨k, v⟩ := e
    rw [insertEntry]
    split
    · by_cases same : name = other <;> simp [List.find?_cons, same]
    · split
      · rename_i here
        subst here
        by_cases same : name = other <;> simp [same]
      · rename_i elsewhere
        by_cases found : k = other
        · have apart : name ≠ other := fun same => elsewhere (same.trans found.symm)
          simp [found, apart]
        · simpa [List.find?_cons, found] using ih

theorem find?_insert (x : Index α κ) (name other : κ) (value : α) :
    (x.insert name value).find? other = if name = other then some value else x.find? other :=
  find?_insertEntry name other value x.entries

theorem find?_insert_self (x : Index α κ) (name : κ) (value : α) :
    (x.insert name value).find? name = some value :=
  (find?_insert x name name value).trans (if_pos rfl)

theorem insertEntry_of_find? {name : κ} {value : α} {entries : List (κ × α)}
    (ascending : entries.Pairwise fun a b => a.1 < b.1)
    (found : (entries.find? fun e => e.1 == name).map (·.2) = some value) :
    insertEntry name value entries = entries := by
  induction entries with
  | nil => cases found
  | cons e entries ih =>
    obtain ⟨k, v⟩ := e
    obtain ⟨above, rest⟩ := List.pairwise_cons.mp ascending
    by_cases here : k = name
    · subst here
      obtain rfl : v = value := by simpa using found
      rw [insertEntry, if_neg (lt_irrefl k), if_pos rfl]
    · have later : (entries.find? fun e => e.1 == name).map (·.2) = some value := by
        simpa [List.find?_cons, here] using found
      obtain ⟨d, present, -⟩ := Option.map_eq_some_iff.mp later
      have same : d.1 = name := by simpa using List.find?_some present
      have less : k < name := same ▸ above d (List.mem_of_find?_eq_some present)
      rw [insertEntry, if_neg (lt_asymm less), if_neg (Ne.symm here), ih rest later]

/-- What is set again to the value that it has leaves the index as it is. -/
theorem insert_of_find? {x : Index α κ} {name : κ} {value : α} (found : x.find? name = some value) :
    x.insert name value = x :=
  ext_entries (insertEntry_of_find? x.ascending found)

theorem sum_values_insert (x : Index α κ) (name : κ) (value : α) (f : α → Nat) :
    ((x.insert name value).values.map f).sum + ((x.find? name).map f).getD 0 =
      (x.values.map f).sum + f value := by
  have entries := sum_insertEntry name value x.ascending f
  simpa only [values, insert, find?, List.map_map, Option.map_map, Function.comp_def] using entries

theorem length_insert (x : Index α κ) (name : κ) (value : α) :
    (x.insert name value).names.length + (if x.contains name then 1 else 0) = x.names.length + 1 := by
  have count (y : Index α κ) : (y.values.map fun _ => 1).sum = y.names.length := by
    rw [List.map_const', List.sum_replicate_nat, values, names, List.length_map, List.length_map,
      Nat.mul_one]
  have sum := x.sum_values_insert name value fun _ => 1
  rw [count, count] at sum
  rw [← sum, contains]
  cases x.find? name <;> rfl

theorem entries_eq_map_names (x : Index α κ) (otherwise : α) :
    x.entries = x.names.map fun name => (name, (x.find? name).getD otherwise) := by
  rw [names, List.map_map]
  conv_lhs => rw [← List.map_id x.entries]
  refine List.map_congr_left fun e member => ?_
  rw [Function.comp_apply, mem_entries_iff.mp member, Option.getD_some, id]

theorem names_insert_of_contains {x : Index α κ} {name : κ} (held : x.contains name = true)
    (value : α) : (x.insert name value).names = x.names := by
  refine (names_ascending _).eq_of_mem_iff x.names_ascending fun other => ?_
  rw [mem_names, mem_names, find?_insert]
  split
  · rename_i same
    exact iff_of_true rfl (same ▸ held)
  · rfl

section Counting

variable {β : Type} (key : β → κ)

/-- Counted one by one, each name gains the number of its elements. -/
theorem find?_foldl_increment (l : List β) (x : Index Nat κ) (name : κ) :
    ((l.foldl (fun x b => x.increment (key b)) x).find? name).getD 0 =
      (x.find? name).getD 0 + l.countP fun b => key b = name := by
  induction l generalizing x with
  | nil => rfl
  | cons b l ih =>
    rw [List.foldl_cons, ih, increment, find?_insert, List.countP_cons]
    by_cases here : key b = name
    · subst here
      simp only [if_true, Option.getD_some, decide_true]
      omega
    · simp only [here, if_false, decide_false, Bool.false_eq_true, Nat.add_zero]

theorem names_foldl_increment (l : List β) (x : Index Nat κ)
    (held : ∀ b ∈ l, x.contains (key b) = true) :
    (l.foldl (fun x b => x.increment (key b)) x).names = x.names := by
  induction l generalizing x with
  | nil => rfl
  | cons b l ih =>
    obtain ⟨now, after⟩ := List.forall_mem_cons.mp held
    have same : (x.increment (key b)).names = x.names := names_insert_of_contains now _
    rw [List.foldl_cons, ih (x.increment (key b)) fun c member => ?_, same]
    rw [contains, ← mem_names, same, mem_names]
    exact after c member

end Counting

theorem find?_erase (x : Index α κ) (name other : κ) :
    (x.erase name).find? other = if name = other then none else x.find? other := by
  rw [find?, find?, erase, List.find?_filter]
  by_cases same : name = other
  · subst same
    rw [if_pos rfl, Option.map_eq_none_iff, List.find?_eq_none]
    intro e _
    simp
  · rw [if_neg same]
    refine congrArg (Option.map _) (congrArg (fun p => List.find? p x.entries) (funext fun e => ?_))
    by_cases here : e.1 = other
    · simp [here, Ne.symm same]
    · simp [here]

theorem length_erase {x : Index α κ} {name : κ} (held : x.contains name = true) :
    (x.erase name).names.length + 1 = x.names.length := by
  have distinct : x.names.Nodup := x.names_ascending.imp ne_of_lt
  have once : (x.entries.countP fun e => e.1 == name) = 1 := by
    have count := List.count_eq_one_of_mem distinct (mem_names.mpr held)
    rwa [List.count, names, List.countP_map] at count
  have split := List.length_eq_countP_add_countP (l := x.entries) fun e => e.1 == name
  have kept : (x.erase name).names.length = x.entries.countP fun e => ¬ (e.1 == name) = true := by
    rw [names, List.length_map, erase, ← List.countP_eq_length_filter]
    refine List.countP_congr fun e _ => ?_
    simp
  have whole : x.names.length = x.entries.length := List.length_map _
  omega

end Index
end EventLedger
