import EventLedger.Text.Blank
import EventLedger.Text.Decimal
import Mathlib.Data.List.Basic
import Mathlib.Tactic.Ring

/-! Written numbers denote what was written, and runs of digits end where something else begins. -/

namespace EventLedger.Text

/-- Nothing of a run goes on at the beginning of what follows. -/
def Ends (p : Char → Bool) (rest : List Char) : Prop := ∀ c ∈ rest.head?, p c = false

theorem Ends.nil (p : Char → Bool) : Ends p [] := by
  intro c member
  cases member

theorem Ends.cons {p : Char → Bool} {c : Char} (stop : p c = false) (rest : List Char) :
    Ends p (c :: rest) := by
  intro d member
  cases member
  exact stop

theorem run_append_inj {p : Char → Bool} {a b r s : List Char} (ha : ∀ c ∈ a, p c = true)
    (hb : ∀ c ∈ b, p c = true) (hr : Ends p r) (hs : Ends p s) (h : a ++ r = b ++ s) :
    a = b ∧ r = s := by
  induction a generalizing b with
  | nil =>
    cases b with
    | nil => exact ⟨rfl, h⟩
    | cons d b =>
      have stop := hr d (by rw [show r = d :: (b ++ s) from h]; rfl)
      rw [hb d List.mem_cons_self] at stop
      cases stop
  | cons c a ih =>
    cases b with
    | nil =>
      have stop := hs c (by rw [← show c :: (a ++ r) = s from h]; rfl)
      rw [ha c List.mem_cons_self] at stop
      cases stop
    | cons d b =>
      obtain ⟨rfl, tails⟩ := List.cons.inj h
      obtain ⟨rfl, rest⟩ := ih (fun x m => ha x (List.mem_cons_of_mem _ m))
        (fun x m => hb x (List.mem_cons_of_mem _ m)) tails
      exact ⟨rfl, rest⟩

theorem isDigit_digitChar (n : Nat) : isDigit (digitChar n) = true := by
  have all : ∀ d < 10, isDigit (Char.ofNat ('0'.toNat + d)) = true := by decide
  exact all (n % 10) (Nat.mod_lt _ (by decide))

theorem ne_of_apart {p : Char → Bool} {c d : Char} (inside : p c = true) (outside : p d = false) :
    c ≠ d := by
  rintro rfl
  rw [inside] at outside
  cases outside

theorem not_isBlank_of_isDigit {c : Char} (digit : isDigit c = true) : isBlank c = false := by
  simp only [isDigit, Bool.and_eq_true, decide_eq_true_eq, Char.le_def, UInt32.le_iff_toNat_le] at digit
  have low : 48 ≤ c.toNat := digit.1
  have high : c.toNat ≤ 57 := digit.2
  have apart (n : Nat) (other : n < 48 ∨ 57 < n) : (c.toNat == n) = false := by
    rw [beq_eq_false_iff_ne]
    omega
  have above (n : Nat) (greater : 57 < n) : decide (n ≤ c.toNat) = false := by
    rw [decide_eq_false_iff_not]
    omega
  have below : decide (c.toNat ≤ 13) = false := by
    rw [decide_eq_false_iff_not]
    omega
  simp [isBlank, apart, above, below]

theorem digitChar_value (n : Nat) : (digitChar n).toNat - '0'.toNat = n % 10 := by
  have all : ∀ d < 10, (Char.ofNat ('0'.toNat + d)).toNat - '0'.toNat = d := by decide
  exact all (n % 10) (Nat.mod_lt _ (by decide))

theorem decimalDigits_ne_nil (n : Nat) : decimalDigits n ≠ [] := by
  rw [decimalDigits]
  split <;> simp

theorem isDigit_of_mem_decimalDigits (n : Nat) : ∀ c ∈ decimalDigits n, isDigit c = true := by
  induction n using Nat.strongRecOn with
  | ind n ih =>
    rw [decimalDigits]
    split
    · intro c member
      rw [List.mem_singleton.mp member]
      exact isDigit_digitChar n
    · intro c member
      rw [List.mem_append, List.mem_singleton] at member
      rcases member with member | rfl
      · exact ih (n / 10) (by omega) c member
      · exact isDigit_digitChar n

theorem foldl_digits (start : Nat) (cs : List Char) :
    cs.foldl (fun n c => 10 * n + (c.toNat - '0'.toNat)) start =
      start * 10 ^ cs.length + digitsValue cs := by
  unfold digitsValue
  induction cs generalizing start with
  | nil => simp
  | cons c cs ih =>
    rw [List.foldl_cons, List.foldl_cons, ih, ih (10 * 0 + _), List.length_cons]
    ring

theorem digitsValue_append (a b : List Char) :
    digitsValue (a ++ b) = digitsValue a * 10 ^ b.length + digitsValue b := by
  rw [digitsValue, List.foldl_append]
  exact foldl_digits _ b

theorem digitsValue_digitChar (n : Nat) : digitsValue [digitChar n] = n % 10 := by
  rw [digitsValue, List.foldl_cons, List.foldl_nil, digitChar_value]
  omega

theorem digitsValue_zeros (count : Nat) : digitsValue (List.replicate count '0') = 0 := by
  induction count with
  | zero => rfl
  | succ count ih =>
    rw [List.replicate_succ', digitsValue_append, ih]
    rfl

theorem digitsValue_decimalDigits (n : Nat) : digitsValue (decimalDigits n) = n := by
  induction n using Nat.strongRecOn with
  | ind n ih =>
    rw [decimalDigits]
    split
    · rw [digitsValue_digitChar]
      omega
    · rw [digitsValue_append, ih (n / 10) (by omega), digitsValue_digitChar, List.length_singleton]
      omega

theorem decimalDigits_injective {m n : Nat} (h : decimalDigits m = decimalDigits n) : m = n := by
  rw [← digitsValue_decimalDigits m, h, digitsValue_decimalDigits]

theorem length_decimalDigits_pos (n : Nat) : 0 < (decimalDigits n).length :=
  List.length_pos_of_ne_nil (decimalDigits_ne_nil n)

theorem pow_le_of_pos {n : Nat} (pos : 0 < n) : 10 ^ ((decimalDigits n).length - 1) ≤ n := by
  induction n using Nat.strongRecOn with
  | ind n ih =>
    rw [decimalDigits]
    split
    · exact pos
    · have before := ih (n / 10) (by omega) (by omega)
      have first := length_decimalDigits_pos (n / 10)
      have longer : (decimalDigits (n / 10)).length = (decimalDigits (n / 10)).length - 1 + 1 := by omega
      rw [List.length_append, List.length_singleton, Nat.add_sub_cancel, longer, Nat.pow_succ]
      omega

theorem length_decimalDigits_le {n width : Nat} (pos : 0 < width) (less : n < 10 ^ width) :
    (decimalDigits n).length ≤ width := by
  rcases Nat.eq_zero_or_pos n with rfl | above
  · rw [decimalDigits]
    exact pos
  · have first := Nat.lt_of_le_of_lt (pow_le_of_pos above) less
    have := (Nat.pow_lt_pow_iff_right (by decide)).mp first
    omega

theorem isDigit_of_mem_paddedDigits (width n : Nat) :
    ∀ c ∈ paddedDigits width n, isDigit c = true := by
  intro c member
  rw [paddedDigits, List.mem_append] at member
  rcases member with member | member
  · rw [List.eq_of_mem_replicate member]
    decide
  · exact isDigit_of_mem_decimalDigits n c member

theorem digitsValue_paddedDigits (width n : Nat) : digitsValue (paddedDigits width n) = n := by
  rw [paddedDigits, digitsValue_append, digitsValue_zeros, digitsValue_decimalDigits]
  omega

theorem paddedDigits_injective {width width' m n : Nat}
    (h : paddedDigits width m = paddedDigits width' n) : m = n := by
  rw [← digitsValue_paddedDigits width m, h, digitsValue_paddedDigits]

theorem length_paddedDigits {width n : Nat} (pos : 0 < width) (less : n < 10 ^ width) :
    (paddedDigits width n).length = width := by
  have le := length_decimalDigits_le pos less
  rw [paddedDigits, List.length_append, List.length_replicate]
  omega

theorem paddedDigits_append_inj {width m n : Nat} {r s : List Char} (hr : Ends isDigit r)
    (hs : Ends isDigit s) (h : paddedDigits width m ++ r = paddedDigits width n ++ s) :
    m = n ∧ r = s := by
  obtain ⟨same, rest⟩ := run_append_inj (isDigit_of_mem_paddedDigits width m)
    (isDigit_of_mem_paddedDigits width n) hr hs h
  exact ⟨paddedDigits_injective same, rest⟩

theorem signedDigits_cases (i : Int) : ∀ c ∈ signedDigits i, c = '-' ∨ isDigit c = true := by
  unfold signedDigits
  intro c member
  split at member
  · rcases List.mem_cons.mp member with rfl | member
    · exact Or.inl rfl
    · exact Or.inr (isDigit_of_mem_decimalDigits _ c member)
  · exact Or.inr (isDigit_of_mem_decimalDigits _ c member)

theorem signedDigits_ne_nil (i : Int) : signedDigits i ≠ [] := by
  unfold signedDigits
  split
  · exact List.cons_ne_nil _ _
  · exact decimalDigits_ne_nil _

theorem minus_ne_decimalDigits (n : Nat) (rest : List Char) : decimalDigits n ≠ '-' :: rest := by
  intro h
  have digit := isDigit_of_mem_decimalDigits n '-' (by rw [h]; exact List.mem_cons_self)
  revert digit
  decide

theorem signedDigits_injective {i j : Int} (h : signedDigits i = signedDigits j) : i = j := by
  unfold signedDigits at h
  split at h <;> split at h
  · have size := decimalDigits_injective (List.cons.inj h).2
    omega
  · exact absurd h.symm (minus_ne_decimalDigits _ _)
  · exact absurd h (minus_ne_decimalDigits _ _)
  · have size := decimalDigits_injective h
    omega

end EventLedger.Text
