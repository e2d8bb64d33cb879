import EventLedger.Index
import EventLedger.Proofs.Json.Numbers
import Mathlib.Data.List.Induction

/-! The values that can be read from text: nested no deeper than the reader goes, with integers that
fit and with members in ascending order of names. -/

namespace EventLedger.Json

/-- Values nested at most so deep, as reading leaves them. -/
def Legible : Nat → Json → Prop
  | _, .null | _, .bool _ | _, .string _ => True
  | _, .number n => n.Fits
  | 0, .array _ | 0, .object _ => False
  | depth + 1, .array xs => ∀ x ∈ xs, Legible depth x
  | depth + 1, .object ms =>
    ms.Pairwise (fun a b => a.1 < b.1) ∧ ∀ m ∈ ms, Legible depth m.2

def IsScalar : Json → Prop
  | .null | .bool _ | .number _ | .string _ => True
  | .array _ | .object _ => False

theorem insertMember_eq_insertEntry (name : String) (value : Json) (ms : List (String × Json)) :
    insertMember name value ms = insertEntry name value ms := by
  induction ms with
  | nil => rfl
  | cons m ms ih => rw [insertMember, insertEntry, ih]

theorem sortMembers_ascending (ms : List (String × Json)) :
    (sortMembers ms).Pairwise fun a b => a.1 < b.1 := by
  induction ms using List.reverseRecOn with
  | nil => exact List.Pairwise.nil
  | append_singleton ms m ih =>
    rw [sortMembers, List.foldl_append, List.foldl_cons, List.foldl_nil, insertMember_eq_insertEntry]
    exact insertEntry_ascending _ _ ih

theorem mem_of_mem_sortMembers {ms : List (String × Json)} {m : String × Json}
    (member : m ∈ sortMembers ms) : m ∈ ms := by
  induction ms using List.reverseRecOn with
  | nil => cases member
  | append_singleton ms last ih =>
    rw [sortMembers, List.foldl_append, List.foldl_cons, List.foldl_nil,
      insertMember_eq_insertEntry] at member
    rcases mem_insertEntry member with rfl | member
    · exact List.mem_append_right _ (List.mem_singleton_self _)
    · exact List.mem_append_left _ (ih member)

theorem Legible.of_scalar {v : Json} (scalar : v.IsScalar) (h : v.Legible 0) (depth : Nat) :
    v.Legible depth := by
  cases v <;> cases depth <;> first | exact h | cases scalar

theorem readStart_scalar {cs rest : List Char} {v : Json} (h : readStart cs = .ok (.scalar v, rest)) :
    v.IsScalar ∧ v.Legible 0 := by
  unfold readStart at h
  split at h
  · cases h
  · obtain ⟨⟨s, after⟩, -, h⟩ := bind_eq_ok.mp h
    cases h
    exact ⟨trivial, trivial⟩
  · cases h
  · cases h
  · obtain ⟨after, -, h⟩ := map_eq_ok.mp h
    cases h
    exact ⟨trivial, trivial⟩
  · obtain ⟨after, -, h⟩ := map_eq_ok.mp h
    cases h
    exact ⟨trivial, trivial⟩
  · obtain ⟨after, -, h⟩ := map_eq_ok.mp h
    cases h
    exact ⟨trivial, trivial⟩
  · obtain ⟨⟨n, after⟩, number, h⟩ := bind_eq_ok.mp h
    cases h
    exact ⟨trivial, readNumber_fits number⟩
  · split at h
    · obtain ⟨⟨n, after⟩, number, h⟩ := bind_eq_ok.mp h
      cases h
      exact ⟨trivial, readNumber_fits number⟩
    · cases h

section Runs

variable {α : Type} {P : α → Prop} {read : List Char → Except Fault (α × List Char)}

theorem readItems_forall (each : ∀ cs x rest, read cs = .ok (x, rest) → P x) {n : Nat} {first : Bool}
    {cs rest : List Char} {xs : List α} (h : readItems read n first cs = .ok (xs, rest)) :
    ∀ x ∈ xs, P x := by
  induction n generalizing first cs xs with
  | zero => cases h
  | succ n ih =>
    obtain ⟨next, -, h⟩ := bind_eq_ok.mp h
    cases next with
    | none =>
      obtain ⟨after, -, h⟩ := bind_eq_ok.mp h
      cases h
      exact List.forall_mem_nil _
    | some cs =>
      obtain ⟨⟨x, afterItem⟩, item, h⟩ := bind_eq_ok.mp h
      obtain ⟨⟨ys, after⟩, others, h⟩ := bind_eq_ok.mp h
      cases h
      exact List.forall_mem_cons.mpr ⟨each _ _ _ item, ih others⟩

theorem readMembers_forall (each : ∀ cs x rest, read cs = .ok (x, rest) → P x) {n : Nat}
    {first : Bool} {cs rest : List Char} {ms : List (String × α)}
    (h : readMembers read n first cs = .ok (ms, rest)) : ∀ m ∈ ms, P m.2 := by
  induction n generalizing first cs ms with
  | zero => cases h
  | succ n ih =>
    obtain ⟨next, -, h⟩ := bind_eq_ok.mp h
    cases next with
    | none =>
      obtain ⟨after, -, h⟩ := bind_eq_ok.mp h
      cases h
      exact List.forall_mem_nil _
    | some cs =>
      obtain ⟨⟨name, afterName⟩, -, h⟩ := bind_eq_ok.mp h
      obtain ⟨afterColon, -, h⟩ := bind_eq_ok.mp h
      obtain ⟨⟨v, afterValue⟩, value, h⟩ := bind_eq_ok.mp h
      obtain ⟨⟨ns, after⟩, others, h⟩ := bind_eq_ok.mp h
      cases h
      exact List.forall_mem_cons.mpr ⟨each _ _ _ value, ih others⟩

end Runs

/-- Whatever is read is legible. -/
theorem readValue_legible {depth : Nat} {cs rest : List Char} {v : Json}
    (h : readValue depth cs = .ok (v, rest)) : v.Legible depth := by
  induction depth generalizing cs rest v with
  | zero =>
    unfold readValue at h
    obtain ⟨⟨start, after⟩, begins, h⟩ := bind_eq_ok.mp h
    cases start with
    | scalar w =>
      cases h
      obtain ⟨scalar, legible⟩ := readStart_scalar begins
      exact legible
    | list => cases h
    | members => cases h
  | succ depth ih =>
    unfold readValue at h
    obtain ⟨⟨start, after⟩, begins, h⟩ := bind_eq_ok.mp h
    cases start with
    | scalar w =>
      cases h
      obtain ⟨scalar, legible⟩ := readStart_scalar begins
      exact legible.of_scalar scalar _
    | list =>
      obtain ⟨⟨xs, afterItems⟩, items, h⟩ := bind_eq_ok.mp h
      cases h
      exact readItems_forall (fun _ _ _ => ih) items
    | members =>
      obtain ⟨⟨ms, afterMembers⟩, members, h⟩ := bind_eq_ok.mp h
      cases h
      have all := readMembers_forall (fun _ _ _ => ih) members
      exact ⟨sortMembers_ascending ms, fun m member => all m (mem_of_mem_sortMembers member)⟩

end EventLedger.Json
