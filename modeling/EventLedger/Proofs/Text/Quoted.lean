import EventLedger.Text.Quoted

/-! Words within longer texts, and within quoted ones. -/

namespace EventLedger.Text

section Infix

variable {α : Type} {a b : α} {l pre xs ys : List α}

theorem infix_of_append (apart : a ∉ pre) (within : a :: l <:+: pre ++ xs) : a :: l <:+: xs := by
  induction pre with
  | nil => exact within
  | cons x pre ih =>
    rcases List.infix_cons_iff.mp within with first | later
    · exact absurd (List.cons_prefix_cons.mp first).1 fun same => apart (same ▸ List.mem_cons_self)
    · exact ih (fun member => apart (List.mem_cons_of_mem _ member)) later

theorem infix_of_append_right (apart : b ∉ ys) (within : l ++ [b] <:+: xs ++ ys) : l ++ [b] <:+: xs := by
  rw [← List.reverse_infix, List.reverse_append, List.reverse_append] at within
  rw [← List.reverse_infix, List.reverse_append]
  exact infix_of_append (fun member => apart (List.mem_reverse.mp member)) within

theorem prefix_of_stop (apart : b ∉ l) (first : l ++ [b] <+: xs ++ b :: ys) : l <+: xs := by
  induction l generalizing xs with
  | nil => exact List.nil_prefix
  | cons c l ih =>
    cases xs with
    | nil =>
      exact absurd (List.cons_prefix_cons.mp first).1 fun same => apart (same ▸ List.mem_cons_self)
    | cons x xs =>
      obtain ⟨rfl, rest⟩ := List.cons_prefix_cons.mp first
      exact List.cons_prefix_cons.mpr ⟨rfl, ih (fun member => apart (List.mem_cons_of_mem _ member)) rest⟩

/-- What ends with its only stop stands before a stop of the text, or after it. -/
theorem infix_of_stop (apart : b ∉ l) (within : l ++ [b] <:+: xs ++ b :: ys) :
    l <:+: xs ∨ l ++ [b] <:+: ys := by
  induction xs with
  | nil =>
    rcases List.infix_cons_iff.mp within with first | later
    · exact .inl (prefix_of_stop apart (first : l ++ [b] <+: [] ++ b :: ys)).isInfix
    · exact .inr later
  | cons x xs ih =>
    rcases List.infix_cons_iff.mp within with first | later
    · exact .inl (prefix_of_stop apart (first : l ++ [b] <+: (x :: xs) ++ b :: ys)).isInfix
    · exact (ih later).imp_left List.infix_cons

end Infix

theorem hexDigits_apart (n : Nat) : 'm' ∉ hexDigits n := by
  have digit (n : Nat) : 'm' ≠ hexDigit n := by
    have all : ∀ d < 16, 'm' ≠ hexDigit d := by decide
    have same : hexDigit n = hexDigit (n % 16) := by rw [hexDigit, hexDigit, Nat.mod_mod]
    rw [same]
    exact all (n % 16) (Nat.mod_lt _ (by decide))
  induction n using hexDigits.induct with
  | case1 n small =>
    rw [hexDigits, if_pos small, List.mem_singleton]
    exact digit n
  | case2 n large ih =>
    rw [hexDigits, if_neg large, List.mem_append, List.mem_singleton]
    exact not_or.mpr ⟨ih, digit n⟩

theorem quotedChar_cases (c : Char) :
    quotedChar c = [c] ∨ ∃ rest, quotedChar c = '\\' :: rest ∧ 'm' ∉ '\\' :: rest := by
  unfold quotedChar
  repeat' split
  all_goals first
    | exact .inl rfl
    | exact .inr ⟨_, rfl, by simp [hexDigits_apart]⟩

theorem prefix_of_quoted {l cs : List Char} (plain : '\\' ∉ l) (first : l <+: cs.flatMap quotedChar) :
    l <+: cs := by
  induction l generalizing cs with
  | nil => exact List.nil_prefix
  | cons a l ih =>
    have apart : a ≠ '\\' := fun same => plain (same ▸ List.mem_cons_self)
    cases cs with
    | nil => exact absurd (List.prefix_nil.mp first) (List.cons_ne_nil _ _)
    | cons c cs =>
      rw [List.flatMap_cons] at first
      rcases quotedChar_cases c with same | ⟨rest, escaped, -⟩
      · rw [same, List.singleton_append] at first
        obtain ⟨rfl, later⟩ := List.cons_prefix_cons.mp first
        exact List.cons_prefix_cons.mpr
          ⟨rfl, ih (fun member => plain (List.mem_cons_of_mem _ member)) later⟩
      · rw [escaped] at first
        exact absurd (List.cons_prefix_cons.mp first).1 apart

/-- No escape holds the letter, so what begins with it is not made by quoting. -/
theorem infix_of_quoted {l cs : List Char} (plain : '\\' ∉ 'm' :: l)
    (within : 'm' :: l <:+: cs.flatMap quotedChar) : 'm' :: l <:+: cs := by
  induction cs with
  | nil => exact within
  | cons c cs ih =>
    rw [List.flatMap_cons] at within
    rcases quotedChar_cases c with same | ⟨rest, escaped, apart⟩
    · rw [same, List.singleton_append] at within
      rcases List.infix_cons_iff.mp within with first | later
      · refine (prefix_of_quoted plain ?_ : _ <+: c :: cs).isInfix
        rw [List.flatMap_cons, same]
        exact first
      · exact List.infix_cons (ih later)
    · rw [escaped] at within
      exact List.infix_cons (ih (infix_of_append apart within))

end EventLedger.Text
