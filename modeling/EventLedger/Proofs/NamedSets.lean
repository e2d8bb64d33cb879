import EventLedger.Proofs.GrowSet
import EventLedger.Proofs.Json.Settling
import Mathlib.Logic.Function.Basic

/-! Sets that grow beside each other under names. Each holds what was added to it, and what was in
another set when that was merged into it. -/

namespace EventLedger

namespace GrowSet

/-- What is done to a set under a name. -/
inductive Operation (ν α : Type) where
  | insert (name : ν) (x : α)
  | extend (name : ν) (xs : List α)
  | ofList (name : ν) (xs : List α)
  | decode (name : ν) (value : Json)
  | merge (name source : ν)

variable {ν α : Type} (item : Decoder α)

namespace Operation

/-- The name whose set may change. -/
def target : Operation ν α → ν
  | .insert n _ | .extend n _ | .ofList n _ | .decode n _ | .merge n _ => n

/-- The operation itself brings the element to the set. -/
def Adds (n : ν) (x : α) : Operation ν α → Prop
  | .insert m y => m = n ∧ y = x
  | .extend m ys | .ofList m ys => m = n ∧ x ∈ ys
  | .decode m v => m = n ∧ ∃ ys, item.Lists v ys ∧ x ∈ ys
  | .merge _ _ => False

/-- The operation puts a new set in the place of the old one. -/
def Renews (n : ν) : Operation ν α → Prop
  | .ofList m _ => m = n
  | .decode m v => m = n ∧ ∃ ys, item.Lists v ys
  | _ => False

end Operation

/-- The element was added to the set, by itself or with another set, since the set was made. -/
inductive Added : List (Operation ν α) → ν → α → Prop
  | adds {ops op n x} (adds : op.Adds item n x) : Added (ops ++ [op]) n x
  | merged {ops n source x} (there : Added ops source x) : Added (ops ++ [.merge n source]) n x
  | stays {ops op n x} (here : Added ops n x) (kept : ¬ op.Renews item n) : Added (ops ++ [op]) n x

variable {item} {ops : List (Operation ν α)} {op : Operation ν α} {n : ν} {x : α}

theorem not_added_nil : ¬ Added item ([] : List (Operation ν α)) n x := by
  generalize none : ([] : List (Operation ν α)) = ops
  intro added
  have last {before : List (Operation ν α)} {op} : before ++ [op] ≠ [] :=
    List.append_ne_nil_of_right_ne_nil _ (List.cons_ne_nil _ _)
  cases added <;> exact last none.symm

theorem added_concat :
    Added item (ops ++ [op]) n x ↔
      op.Adds item n x ∨ (∃ source, op = .merge n source ∧ Added item ops source x) ∨
        Added item ops n x ∧ ¬ op.Renews item n := by
  constructor
  · generalize whole : ops ++ [op] = all
    intro added
    cases added with
    | adds adds =>
      obtain ⟨rfl, last⟩ := List.append_inj' whole rfl
      cases last
      exact .inl adds
    | merged there =>
      obtain ⟨rfl, last⟩ := List.append_inj' whole rfl
      cases last
      exact .inr (.inl ⟨_, rfl, there⟩)
    | stays here kept =>
      obtain ⟨rfl, last⟩ := List.append_inj' whole rfl
      cases last
      exact .inr (.inr ⟨here, kept⟩)
  · rintro (adds | ⟨source, rfl, there⟩ | ⟨here, kept⟩)
    · exact .adds adds
    · exact .merged there
    · exact .stays here kept

/-- An element stays until the set is made anew. -/
theorem added_append {later : List (Operation ν α)} (kept : ∀ op ∈ later, ¬ op.Renews item n)
    (here : Added item ops n x) : Added item (ops ++ later) n x := by
  induction later generalizing ops with
  | nil => rwa [List.append_nil]
  | cons op later ih =>
    obtain ⟨now, after⟩ := List.forall_mem_cons.mp kept
    have next := ih after (here.stays now)
    rwa [List.append_assoc, List.singleton_append] at next

theorem Operation.Adds.eq_target (adds : op.Adds item n x) : n = op.target := by
  cases op with
  | merge m source => cases adds
  | _ => exact adds.1.symm

theorem Operation.Renews.eq_target (renews : op.Renews item n) : n = op.target := by
  cases op with
  | ofList m ys => exact renews.symm
  | decode m v => exact renews.1.symm
  | _ => cases renews

variable [DecidableEq ν] [LinearOrder α] (item) {sets : ν → GrowSet α}

def Operation.result (sets : ν → GrowSet α) : Operation ν α → Except Refusal (GrowSet α)
  | .insert n x => .ok ((sets n).insert x)
  | .extend n xs => .ok ((sets n).extend xs)
  | .ofList _ xs => .ok (GrowSet.ofList xs)
  | .decode _ v => decoder item v
  | .merge n source => .ok ((sets n).merge (sets source))

/-- Performs an operation. A value that is no list of elements leaves all sets as they are. -/
def perform (sets : ν → GrowSet α) (op : Operation ν α) : ν → GrowSet α :=
  match op.result item sets with
  | .ok s => Function.update sets op.target s
  | .error _ => sets

/-- Performs operations in their order, on sets that are empty to begin with. -/
def run (ops : List (Operation ν α)) : ν → GrowSet α := ops.foldl (perform item) fun _ => .empty

variable {item}

theorem run_concat (ops : List (Operation ν α)) (op : Operation ν α) :
    run item (ops ++ [op]) = perform item (run item ops) op := List.foldl_concat _ _ _ _

theorem perform_of_ok {s : GrowSet α} (given : op.result item sets = .ok s) :
    perform item sets op = Function.update sets op.target s := by
  rw [perform, given]

theorem perform_of_error {r : Refusal} (refused : op.result item sets = .error r) :
    perform item sets op = sets := by
  rw [perform, refused]

theorem perform_other (other : n ≠ op.target) : perform item sets op n = sets n := by
  cases given : op.result item sets with
  | ok s => rw [perform_of_ok given, Function.update_of_ne other]
  | error r => rw [perform_of_error given]

theorem perform_decode_listed {v : Json} {ys : List α} (listed : item.Lists v ys) :
    perform item sets (.decode n v) = Function.update sets n (.ofList ys) :=
  perform_of_ok (map_eq_ok.mpr ⟨ys, Decoder.list_eq_ok.mpr listed, rfl⟩)

theorem perform_decode_other {v : Json} (other : ¬ ∃ ys, item.Lists v ys) :
    perform item sets (.decode n v) = sets := by
  cases read : Decoder.list item v with
  | ok ys => exact absurd ⟨ys, Decoder.list_eq_ok.mp read⟩ other
  | error r => exact perform_of_error (map_eq_error.mpr read)

/-- What a set contains after an operation: what the operation adds, and what was there if the set is
    not made anew. -/
theorem contains_perform :
    (perform item sets op n).contains x = true ↔
      op.Adds item n x ∨ (∃ source, op = .merge n source ∧ (sets source).contains x = true) ∨
        (sets n).contains x = true ∧ ¬ op.Renews item n := by
  -- an operation can change the set of its own name only
  by_cases here : n = op.target
  · subst here
    cases op with
    | insert n y =>
      rw [perform_of_ok rfl, Function.update_self, contains_insert]
      simp [Operation.Adds, Operation.Renews, Operation.target]
    | extend n ys =>
      rw [perform_of_ok rfl, Function.update_self, contains_extend]
      simp [Operation.Adds, Operation.Renews, Operation.target, or_comm]
    | ofList n ys =>
      rw [perform_of_ok rfl, Function.update_self, contains_ofList]
      simp [Operation.Adds, Operation.Renews, Operation.target]
    | decode n v =>
      by_cases listed : ∃ ys, item.Lists v ys
      · obtain ⟨ys, read⟩ := listed
        have same : (∃ zs, item.Lists v zs ∧ x ∈ zs) ↔ x ∈ ys := by
          constructor
          · rintro ⟨zs, again, held⟩
            rwa [read.unique again]
          · exact fun held => ⟨ys, read, held⟩
        have renews : ∃ zs, item.Lists v zs := ⟨ys, read⟩
        rw [perform_decode_listed read, Operation.target, Function.update_self, contains_ofList]
        simp [-not_exists, Operation.Adds, Operation.Renews, same, renews]
      · rw [perform_decode_other listed]
        have nothing : ¬ ∃ ys, item.Lists v ys ∧ x ∈ ys := by
          rintro ⟨ys, read, -⟩
          exact listed ⟨ys, read⟩
        simp [-not_exists, Operation.Adds, Operation.Renews, Operation.target, nothing, listed]
    | merge n source =>
      rw [perform_of_ok rfl, Function.update_self, contains_merge]
      simp [Operation.Adds, Operation.Renews, Operation.target, or_comm]
  · rw [perform_other here]
    constructor
    · exact fun held => .inr (.inr ⟨held, fun renews => here renews.eq_target⟩)
    · rintro (adds | ⟨source, rfl, -⟩ | ⟨held, -⟩)
      · exact absurd adds.eq_target here
      · exact absurd rfl here
      · exact held

theorem contains_run : (run item ops n).contains x = true ↔ Added item ops n x := by
  induction ops using List.reverseRecOn generalizing n with
  | nil => exact iff_of_false not_contains_empty not_added_nil
  | append_singleton ops op ih =>
    rw [run_concat, contains_perform, added_concat]
    simp only [ih]

theorem contains_perform_merge {a b : ν} :
    (perform item sets (.merge a b) n).contains x = true ↔
      (sets n).contains x = true ∨ n = a ∧ (sets b).contains x = true := by
  rw [contains_perform]
  simp only [Operation.Adds, Operation.Renews, false_or, not_false_eq_true, and_true,
    Operation.merge.injEq]
  constructor
  · rintro (⟨source, ⟨rfl, rfl⟩, there⟩ | here)
    · exact .inr ⟨rfl, there⟩
    · exact .inl here
  · rintro (here | ⟨rfl, there⟩)
    · exact .inr here
    · exact .inl ⟨b, ⟨rfl, rfl⟩, there⟩

theorem perform_merge_comm (a b : ν) :
    perform item sets (.merge a b) a = perform item sets (.merge b a) b :=
  ext_contains fun x => by
    simp only [contains_perform_merge, true_and]
    exact or_comm

/-- Merging two sets one after the other comes to merging their union, also where names coincide. -/
theorem perform_merge_assoc (a b c : ν) :
    perform item (perform item sets (.merge a b)) (.merge a c) a =
      perform item (perform item sets (.merge b c)) (.merge a b) a :=
  ext_contains fun x => by
    simp only [contains_perform_merge, true_and]
    tauto

theorem perform_merge_again (a b : ν) :
    perform item (perform item sets (.merge a b)) (.merge a b) = perform item sets (.merge a b) :=
  funext fun n => ext_contains fun x => by
    simp only [contains_perform_merge]
    tauto

theorem perform_merge_source (a b : ν) : perform item sets (.merge a b) b = sets b :=
  ext_contains fun x => by
    rw [contains_perform_merge]
    tauto

theorem perform_merge_self (a : ν) : perform item sets (.merge a a) = sets := by
  funext n
  by_cases here : n = a
  · rw [here, perform_merge_source]
  · exact perform_other here

/-- Sets that are changed under names stay in ascending order, hold exactly what was added to them, and
    only grow unless they are made anew. A set merged into another one stays as it is, and the result
    does not depend on the order, the grouping or the number of merges. -/
theorem named_sets_hold_what_was_added (item : Decoder α) (ops : List (Operation ν α)) :
    let sets := run item ops
    (∀ n,
      (sets n).toList.Pairwise (· < ·) ∧ (sets n).toList.Nodup ∧
        ∀ x, (x ∈ (sets n).toList ↔ Added item ops n x) ∧
          ((sets n).contains x = true ↔ Added item ops n x)) ∧
      (∀ later n, (∀ op ∈ later, ¬ op.Renews item n) →
        ∀ x ∈ (sets n).toList, x ∈ (run item (ops ++ later) n).toList) ∧
      (∀ a b, perform item sets (.merge a b) a = perform item sets (.merge b a) b) ∧
      (∀ a b c,
        perform item (perform item sets (.merge a b)) (.merge a c) a =
          perform item (perform item sets (.merge b c)) (.merge a b) a) ∧
      (∀ a b,
        perform item (perform item sets (.merge a b)) (.merge a b) =
          perform item sets (.merge a b)) ∧
      (∀ a, perform item sets (.merge a a) = sets) ∧
      (∀ a b, perform item sets (.merge a b) b = sets b) ∧
      ∀ op n, n ≠ op.target → perform item sets op n = sets n := by
  refine ⟨fun n => ?_, fun later n kept x held => ?_, perform_merge_comm, perform_merge_assoc,
    perform_merge_again, perform_merge_self, perform_merge_source, fun _ _ => perform_other⟩
  · refine ⟨toList_ascending _, (toList_ascending _).imp ne_of_lt, fun x => ⟨?_, contains_run⟩⟩
    rw [mem_toList, contains_run]
  · rw [mem_toList, contains_run] at held ⊢
    exact added_append kept held

/-- What comes to a set after it was merged is not in the other one. -/
example :
    (run .string [.insert "a" "y", .decode "b" (.strings ["x", "y", "x"]), .merge "a" "b", .insert "b" "z"]
      "a").toList = ["x", "y"] := by decide

end GrowSet
end EventLedger
