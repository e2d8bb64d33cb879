import EventLedger.Proofs.Json.Strings
import EventLedger.Proofs.Number.Text
import Mathlib.Data.String.Basic

/-! Written values are told apart by their texts, whatever stands behind them. -/

namespace EventLedger.Json

open Text Number

inductive Form where
  | null
  | yes
  | no
  | string
  | list
  | members
  | number

def Form.ofChar (c : Char) : Form :=
  if c = 'n' then .null
  else if c = 't' then .yes
  else if c = 'f' then .no
  else if c = '"' then .string
  else if c = '[' then .list
  else if c = '\x7b' then .members
  else .number

def form : Json → Form
  | .null => .null
  | .bool true => .yes
  | .bool false => .no
  | .number _ => .number
  | .string _ => .string
  | .array _ => .list
  | .object _ => .members

theorem Form.ofChar_numeral {c : Char} (h : c = '-' ∨ isDigit c = true) : Form.ofChar c = .number := by
  have apart (d : Char) (other : ¬ (d = '-' ∨ isDigit d = true)) : c ≠ d := fun same => other (same ▸ h)
  rw [ofChar, if_neg (apart _ (by decide)), if_neg (apart _ (by decide)), if_neg (apart _ (by decide)),
    if_neg (apart _ (by decide)), if_neg (apart _ (by decide)), if_neg (apart _ (by decide))]

/-- A written value begins with a character of its form, never with a closing bracket. -/
theorem head_chars (v : Json) : ∃ c rest, v.chars = c :: rest ∧ Form.ofChar c = v.form ∧ c ≠ ']' := by
  match v with
  | .null => exact ⟨'n', _, rfl, rfl, by decide⟩
  | .bool true => exact ⟨'t', _, rfl, rfl, by decide⟩
  | .bool false => exact ⟨'f', _, rfl, rfl, by decide⟩
  | .number n =>
    obtain ⟨c, rest, text, numeral⟩ := Number.head_chars n
    refine ⟨c, rest, text, Form.ofChar_numeral numeral, ?_⟩
    rintro rfl
    revert numeral
    decide
  | .string s => exact ⟨'"', _, rfl, rfl, by decide⟩
  | .array [] => exact ⟨'[', _, rfl, rfl, by decide⟩
  | .array (x :: xs) => exact ⟨'[', _, by rw [chars], rfl, by decide⟩
  | .object [] => exact ⟨'\x7b', _, rfl, rfl, by decide⟩
  | .object ((k, v) :: ms) => exact ⟨'\x7b', _, by rw [chars], rfl, by decide⟩

theorem form_eq_of_append_eq {v w : Json} {r s : List Char} (h : v.chars ++ r = w.chars ++ s) :
    v.form = w.form := by
  obtain ⟨c, rest, text, form, -⟩ := head_chars v
  obtain ⟨d, rest', text', form', -⟩ := head_chars w
  rw [text, text'] at h
  rw [← form, ← form', (List.cons.inj h).1]

theorem ends_items (xs : List Json) (r : List Char) : Ends isNumeral (itemsChars xs ++ ']' :: r) := by
  cases xs with
  | nil => exact Ends.cons (by decide) _
  | cons x xs =>
    rw [itemsChars]
    exact Ends.cons (by decide) _

theorem ends_members (ms : List (String × Json)) (r : List Char) :
    Ends isNumeral (membersChars ms ++ '\x7d' :: r) := by
  cases ms with
  | nil => exact Ends.cons (by decide) _
  | cons m ms =>
    rw [membersChars]
    exact Ends.cons (by decide) _

mutual

theorem chars_append_inj (v w : Json) {r s : List Char} (hr : Ends isNumeral r) (hs : Ends isNumeral s)
    (h : v.chars ++ r = w.chars ++ s) : v = w ∧ r = s := by
  have form := form_eq_of_append_eq h
  match v, w with
  | .null, .null => exact ⟨rfl, List.append_cancel_left h⟩
  | .bool true, .bool true => exact ⟨rfl, List.append_cancel_left h⟩
  | .bool false, .bool false => exact ⟨rfl, List.append_cancel_left h⟩
  | .number m, .number n =>
    obtain ⟨same, rest⟩ :=
      run_append_inj (isNumeral_of_mem_chars m) (isNumeral_of_mem_chars n) hr hs h
    exact ⟨congrArg _ (Number.chars_injective same), rest⟩
  | .string a, .string b =>
    obtain ⟨rfl, rest⟩ := stringChars_append_inj h
    exact ⟨rfl, rest⟩
  | .array [], .array [] => exact ⟨rfl, List.append_cancel_left h⟩
  | .array [], .array (y :: ys) =>
    obtain ⟨c, rest, text, -, other⟩ := head_chars y
    simp only [chars, text, List.cons_append, List.cons.injEq, true_and] at h
    exact absurd h.1.symm other
  | .array (x :: xs), .array [] =>
    obtain ⟨c, rest, text, -, other⟩ := head_chars x
    simp only [chars, text, List.cons_append, List.cons.injEq, true_and] at h
    exact absurd h.1 other
  | .array (x :: xs), .array (y :: ys) =>
    simp only [chars, List.cons_append, List.append_assoc, List.nil_append, List.cons.injEq,
      true_and] at h
    obtain ⟨rfl, tail⟩ := chars_append_inj x y (ends_items xs r) (ends_items ys s) h
    obtain ⟨rfl, rest⟩ := items_append_inj xs ys tail
    exact ⟨rfl, rest⟩
  | .object [], .object [] => exact ⟨rfl, List.append_cancel_left h⟩
  | .object [], .object ((l, y) :: ms) => cases h
  | .object ((k, x) :: ms), .object [] => cases h
  | .object ((k, x) :: ms), .object ((l, y) :: ns) =>
    simp only [chars, List.cons_append, List.append_assoc, List.nil_append, List.cons.injEq,
      true_and] at h
    obtain ⟨rfl, value⟩ := stringChars_append_inj h
    obtain ⟨rfl, tail⟩ := chars_append_inj x y (ends_members ms r) (ends_members ns s) (List.cons.inj value).2
    obtain ⟨rfl, rest⟩ := members_append_inj ms ns tail
    exact ⟨rfl, rest⟩

theorem items_append_inj (xs ys : List Json) {r s : List Char}
    (h : itemsChars xs ++ ']' :: r = itemsChars ys ++ ']' :: s) : xs = ys ∧ r = s := by
  match xs, ys with
  | [], [] => exact ⟨rfl, (List.cons.inj h).2⟩
  | [], y :: ys =>
    rw [itemsChars, itemsChars] at h
    cases h
  | x :: xs, [] =>
    rw [itemsChars, itemsChars] at h
    cases h
  | x :: xs, y :: ys =>
    simp only [itemsChars, List.cons_append, List.append_assoc, List.cons.injEq, true_and] at h
    obtain ⟨rfl, tail⟩ := chars_append_inj x y (ends_items xs r) (ends_items ys s) h
    obtain ⟨rfl, rest⟩ := items_append_inj xs ys tail
    exact ⟨rfl, rest⟩

theorem members_append_inj (ms ns : List (String × Json)) {r s : List Char}
    (h : membersChars ms ++ '\x7d' :: r = membersChars ns ++ '\x7d' :: s) : ms = ns ∧ r = s := by
  match ms, ns with
  | [], [] => exact ⟨rfl, (List.cons.inj h).2⟩
  | [], n :: ns =>
    rw [membersChars, membersChars] at h
    cases h
  | m :: ms, [] =>
    rw [membersChars, membersChars] at h
    cases h
  | (k, x) :: ms, (l, y) :: ns =>
    simp only [membersChars, List.cons_append, List.append_assoc, List.cons.injEq, true_and] at h
    obtain ⟨rfl, value⟩ := stringChars_append_inj h
    obtain ⟨rfl, tail⟩ := chars_append_inj x y (ends_members ms r) (ends_members ns s) (List.cons.inj value).2
    obtain ⟨rfl, rest⟩ := members_append_inj ms ns tail
    exact ⟨rfl, rest⟩

end

/-- Values that are written alike are the same, down to the signs of zeros. -/
theorem text_injective {v w : Json} (h : v.text = w.text) : v = w := by
  have same : v.chars ++ [] = w.chars ++ [] := by
    rw [List.append_nil, List.append_nil, ← String.toList_ofList (l := v.chars),
      ← String.toList_ofList (l := w.chars)]
    exact congrArg String.toList h
  exact (chars_append_inj v w (Ends.nil _) (Ends.nil _) same).1

theorem text_lt_iff {v w : Json} : v.text < w.text ↔ v.chars < w.chars := by
  rw [String.lt_iff_toList_lt]
  change (String.ofList v.chars).toList < (String.ofList w.chars).toList ↔ _
  rw [String.toList_ofList, String.toList_ofList]

end EventLedger.Json
