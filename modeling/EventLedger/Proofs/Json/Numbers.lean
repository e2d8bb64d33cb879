import EventLedger.Json.Reader
import EventLedger.Proofs.Outcome
import EventLedger.Proofs.Text.Digits
import Mathlib.Tactic.SplitIfs

/-! Written integers are read back, and integers that are read fit the words they are kept in. -/

namespace EventLedger

open Text

namespace Text

theorem takeWhile_run {p : Char → Bool} {run rest : List Char} (all : ∀ c ∈ run, p c = true)
    (ends : Ends p rest) : (run ++ rest).takeWhile p = run := by
  rw [List.takeWhile_append_of_pos all]
  cases rest with
  | nil => simp
  | cons c rest =>
    have stop := ends c rfl
    simp [stop]

theorem dropWhile_run {p : Char → Bool} {run rest : List Char} (all : ∀ c ∈ run, p c = true)
    (ends : Ends p rest) : (run ++ rest).dropWhile p = rest := by
  rw [List.dropWhile_append_of_pos all]
  cases rest with
  | nil => rfl
  | cons c rest =>
    have stop := ends c rfl
    simp [stop]

theorem eq_zero_of_decimalDigits {n : Nat} {rest : List Char} (h : decimalDigits n = '0' :: rest) :
    n = 0 ∧ rest = [] := by
  induction n using Nat.strongRecOn generalizing rest with
  | ind n ih =>
    rw [decimalDigits] at h
    split at h
    · rename_i small
      have value := digitsValue_digitChar n
      obtain ⟨zero, none⟩ := List.cons.inj h
      rw [zero] at value
      have : digitsValue ['0'] = 0 := rfl
      exact ⟨by omega, none.symm⟩
    · rename_i large
      cases digits : decimalDigits (n / 10) with
      | nil => exact absurd digits (decimalDigits_ne_nil _)
      | cons d ds =>
        rw [digits, List.cons_append] at h
        obtain ⟨rfl, -⟩ := List.cons.inj h
        have := (ih (n / 10) (by omega) digits).1
        omega

end Text

namespace Json

/-- Whether a number that ends in a digit would go on with a character. -/
def continuesNumber (c : Char) : Bool := isDigit c || c = '.' || c = 'e' || c = 'E'

theorem ends_isDigit {rest : List Char} (ends : Ends continuesNumber rest) : Ends isDigit rest := by
  intro c member
  have stop := ends c member
  simp only [continuesNumber, Bool.or_eq_false_iff] at stop
  exact stop.1.1.1

theorem readDigits_run {atEnd : Problem} {ds rest : List Char} (all : ∀ c ∈ ds, isDigit c = true)
    (some : ds ≠ []) (ends : Ends isDigit rest) : readDigits atEnd (ds ++ rest) = .ok (ds, rest) := by
  have taken := takeWhile_run all ends
  have dropped := dropWhile_run all ends
  cases ds with
  | nil => exact absurd rfl some
  | cons d ds =>
    have digit := all d List.mem_cons_self
    rw [List.cons_append] at *
    rw [readDigits, if_pos digit, taken, dropped]

theorem readWhole_decimal (atEnd : Problem) (n : Nat) {rest : List Char} (ends : Ends isDigit rest) :
    readWhole atEnd (decimalDigits n ++ rest) = .ok (decimalDigits n, rest) := by
  unfold readWhole
  split
  · rename_i tail zero
    cases digits : decimalDigits n with
    | nil => exact absurd digits (decimalDigits_ne_nil n)
    | cons d ds =>
      rw [digits, List.cons_append] at zero
      obtain ⟨rfl, after⟩ := List.cons.inj zero
      obtain ⟨-, rfl⟩ := eq_zero_of_decimalDigits digits
      rw [List.nil_append] at after
      subst after
      have stop : ((rest.head?.map isDigit).getD false) = false := by
        cases rest with
        | nil => rfl
        | cons c rest => exact ends c rfl
      rw [stop]
      rfl
  · exact readDigits_run (isDigit_of_mem_decimalDigits n) (decimalDigits_ne_nil n) ends

theorem readFraction_none (atEnd : Problem) {rest : List Char} (ends : Ends continuesNumber rest) :
    readFraction atEnd rest = .ok (none, rest) := by
  unfold readFraction
  split
  · have stop := ends '.' rfl
    simp [continuesNumber] at stop
  · rfl

theorem readExponent_none (atEnd : Problem) {rest : List Char} (ends : Ends continuesNumber rest) :
    readExponent atEnd rest = .ok (none, rest) := by
  unfold readExponent
  split
  · rfl
  · rename_i c rest
    have stop := ends c rfl
    simp only [continuesNumber, Bool.or_eq_false_iff] at stop
    rw [stop.1.2, stop.2]
    rfl

theorem absorb_fits {significand taken : Nat} {cs : List Char}
    (fits : significand * 10 ^ cs.length + digitsValue cs ≤ greatestWord64) :
    absorb significand taken cs =
      (significand * 10 ^ cs.length + digitsValue cs, taken + cs.length, []) := by
  induction cs generalizing significand taken with
  | nil => simp [absorb, digitsValue]
  | cons c cs ih =>
    have value : significand * 10 ^ (c :: cs).length + digitsValue (c :: cs) =
        (10 * significand + (c.toNat - '0'.toNat)) * 10 ^ cs.length + digitsValue cs := by
      rw [show c :: cs = [c] ++ cs from rfl, digitsValue_append, List.length_append,
        List.length_singleton, show digitsValue [c] = c.toNat - '0'.toNat by simp [digitsValue]]
      ring
    rw [value] at fits ⊢
    have first : 10 * significand + (c.toNat - '0'.toNat) ≤ greatestWord64 := by
      have pos : 1 ≤ 10 ^ cs.length := Nat.one_le_pow _ _ (by decide)
      have := Nat.le_mul_of_pos_right (10 * significand + (c.toNat - '0'.toNat)) pos
      omega
    rw [absorb, if_neg (by omega), ih fits, List.length_cons]
    congr 2
    omega

theorem absorb_le {significand : Nat} (taken : Nat) (cs : List Char) (fits : significand ≤ greatestWord64) :
    (absorb significand taken cs).1 ≤ greatestWord64 := by
  induction cs generalizing significand taken with
  | nil => exact fits
  | cons c cs ih =>
    rw [absorb]
    split_ifs with beyond
    · exact fits
    · exact ih _ (by omega)

end Json

/-- An integer fits 64 bits, with a sign if it is negative. -/
def Number.Fits : Number → Prop
  | .integer i => leastSigned64 ≤ i ∧ i ≤ greatestWord64
  | .float _ => True

namespace Json

theorem Numeral.number_integer {i : Int} (fits : (Number.integer i).Fits) :
    Numeral.number ⟨i < 0, decimalDigits i.natAbs, none, none⟩ = .ok (.integer i) := by
  obtain ⟨least, greatest⟩ := fits
  have size : 0 * 10 ^ (decimalDigits i.natAbs).length + digitsValue (decimalDigits i.natAbs) =
      i.natAbs := by rw [digitsValue_decimalDigits, Nat.zero_mul, Nat.zero_add]
  have high : i.natAbs ≤ greatestWord64 := by
    simp only [leastSigned64, greatestWord64] at *
    omega
  have value := @absorb_fits 0 0 (decimalDigits i.natAbs) (by rw [size]; exact high)
  rw [size] at value
  rw [number, value]
  by_cases negative : i < 0
  · have same : -(i.natAbs : Int) = i := by omega
    have some : i.natAbs ≠ 0 := by omega
    simp only [same, decide_eq_true negative, Option.isNone_none, List.isEmpty_nil, Bool.and_self,
      Bool.not_true, if_true, Bool.false_eq_true, if_false]
    exact if_pos ⟨some, least⟩
  · have same : (i.natAbs : Int) = i := by omega
    simp only [same, decide_eq_false negative, Option.isNone_none, List.isEmpty_nil, Bool.and_self,
      Bool.not_false, if_true]

theorem Numeral.scientific_ne_integer (n : Numeral) (digits : Nat) (e i : Int) :
    n.scientific digits e ≠ .ok (.integer i) := by
  unfold scientific
  generalize Binary64.ofScientific digits e = x
  cases x <;> simp

theorem Numeral.float_ne_integer (n : Numeral) (high : Nat) (left : List Char) (i : Int) :
    n.float high left ≠ .ok (.integer i) := by
  have other := n.scientific_ne_integer
  unfold float
  split
  split
  · exact other _ _ i
  · split
    · exact other _ _ i
    · split_ifs <;> simp

theorem Numeral.number_fits {n : Numeral} {v : Number} (h : n.number = .ok v) : v.Fits := by
  have high := absorb_le 0 n.whole (Nat.zero_le greatestWord64)
  cases v with
  | float x => exact trivial
  | integer i =>
    unfold number at h
    split at h
    rename_i value taken left absorbed
    rw [absorbed] at high
    split_ifs at h with plain positive negative
    · cases h
      simp only [Number.Fits, leastSigned64]
      omega
    · cases h
      simp only [Number.Fits, greatestWord64]
      omega
    · exact absurd h (n.scientific_ne_integer value 0 i)
    · exact absurd h (n.float_ne_integer value left i)

theorem readNumber_fits {negative : Bool} {cs rest : List Char} {v : Number}
    (h : readNumber negative cs = .ok (v, rest)) : v.Fits := by
  unfold readNumber at h
  obtain ⟨⟨n, after⟩, -, h⟩ := bind_eq_ok.mp h
  dsimp only at h
  split at h
  · rename_i value
    cases h
    exact Numeral.number_fits value
  · cases h
  · cases h

theorem readNumeral_decimal (atEnd : Problem) (negative : Bool) (n : Nat) {rest : List Char}
    (ends : Ends continuesNumber rest) :
    readNumeral atEnd negative (decimalDigits n ++ rest) =
      .ok (⟨negative, decimalDigits n, none, none⟩, rest) := by
  simp only [readNumeral, readWhole_decimal _ _ (ends_isDigit ends), readFraction_none _ ends,
    readExponent_none _ ends, ok_bind]

/-- The digits of a written integer are read back, where nothing goes on with the number. -/
theorem readNumber_digits {i : Int} (fits : (Number.integer i).Fits) {rest : List Char}
    (ends : Ends continuesNumber rest) :
    readNumber (i < 0) (decimalDigits i.natAbs ++ rest) = .ok (.integer i, rest) := by
  simp only [readNumber, readNumeral_decimal _ _ _ ends, Numeral.number_integer fits, ok_bind]

end Json
end EventLedger
