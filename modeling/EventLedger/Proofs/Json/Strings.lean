import EventLedger.Json.Printer
import EventLedger.Json.Reader
import Mathlib.Data.List.Basic

/-! A written string reads back as itself, whatever stands behind it. -/

namespace EventLedger

theorem Text.hexValue_hexDigit (n : Nat) : hexValue? (hexDigit n) = some (n % 16) := by
  have all : ∀ d < 16, hexValue? (hexDigit d) = some d := by decide
  have same : hexDigit n = hexDigit (n % 16) := by rw [hexDigit, hexDigit, Nat.mod_mod]
  rw [same, all _ (Nat.mod_lt _ (by decide))]

namespace Json

theorem readStringFrom_letter {letter c : Char} (n : Nat) (soFar rest : List Char)
    (other : letter ≠ 'u') (stands : simpleEscape? letter = some c) :
    readStringFrom (n + 1) soFar ('\\' :: letter :: rest) = readStringFrom n (c :: soFar) rest := by
  rw [readStringFrom, if_neg (by decide), if_pos rfl, stands]
  exact other

theorem readUnicodeEscape_control {c : Char} (control : c.toNat < 0x20) (rest : List Char) :
    readUnicodeEscape ('0' :: '0' :: Text.hexDigit (c.toNat / 16) :: Text.hexDigit c.toNat :: rest) =
      .ok (c, rest) := by
  have zero : Text.hexValue? '0' = some 0 := by decide
  have code : ((0 * 16 + 0) * 16 + c.toNat / 16 % 16) * 16 + c.toNat % 16 = c.toNat := by omega
  rw [readUnicodeEscape, readHex]
  simp only [zero, Text.hexValue_hexDigit, code]
  change (if 0xDC00 ≤ c.toNat ∧ c.toNat ≤ 0xDFFF then _ else _) = _
  rw [if_neg (by omega), if_pos (by omega), Char.ofNat_toNat]

theorem readStringFrom_escapedChar (n : Nat) (soFar rest : List Char) (c : Char) :
    readStringFrom (n + 1) soFar (escapedChar c ++ rest) = readStringFrom n (c :: soFar) rest := by
  unfold escapedChar
  split_ifs with quote backslash backspace formFeed lineFeed return_ tab control
  · subst quote
    exact readStringFrom_letter n soFar rest (by decide) rfl
  · subst backslash
    exact readStringFrom_letter n soFar rest (by decide) rfl
  · subst backspace
    exact readStringFrom_letter n soFar rest (by decide) rfl
  · subst formFeed
    exact readStringFrom_letter n soFar rest (by decide) rfl
  · subst lineFeed
    exact readStringFrom_letter n soFar rest (by decide) rfl
  · subst return_
    exact readStringFrom_letter n soFar rest (by decide) rfl
  · subst tab
    exact readStringFrom_letter n soFar rest (by decide) rfl
  · simp only [List.cons_append, List.nil_append]
    rw [readStringFrom, if_neg (by decide), if_pos rfl]
    simp only [readUnicodeEscape_control control]
    rfl
  · rw [List.singleton_append, readStringFrom.eq_def]
    dsimp only
    rw [if_neg quote, if_neg backslash, if_neg control]

theorem readStringFrom_escaped (cs : List Char) {n : Nat} (enough : cs.length < n)
    (soFar rest : List Char) :
    readStringFrom n soFar (cs.flatMap escapedChar ++ '"' :: rest) =
      .ok (String.ofList (soFar.reverse ++ cs), rest) := by
  induction cs generalizing n soFar with
  | nil =>
    obtain ⟨n, rfl⟩ := Nat.exists_eq_succ_of_ne_zero (Nat.ne_of_gt enough)
    rw [List.flatMap_nil, List.nil_append, readStringFrom.eq_def, List.append_nil]
    dsimp only
    rw [if_pos rfl]
  | cons c cs ih =>
    obtain ⟨n, rfl⟩ := Nat.exists_eq_succ_of_ne_zero (Nat.ne_of_gt (Nat.zero_lt_of_lt enough))
    rw [List.flatMap_cons, List.append_assoc, readStringFrom_escapedChar,
      ih (Nat.lt_of_succ_lt_succ enough), List.reverse_cons, List.append_assoc, List.singleton_append]

theorem length_escapedChar_pos (c : Char) : 0 < (escapedChar c).length := by
  unfold escapedChar
  split_ifs <;> exact Nat.succ_pos _

theorem length_le_escaped (cs : List Char) : cs.length ≤ (cs.flatMap escapedChar).length := by
  induction cs with
  | nil => exact Nat.le_refl _
  | cons c cs ih =>
    have := length_escapedChar_pos c
    rw [List.flatMap_cons, List.length_append, List.length_cons]
    omega

/-- What is written behind an opening quote reads back as the string. -/
theorem readString_written (s : String) (rest : List Char) :
    readString (s.toList.flatMap escapedChar ++ ['"'] ++ rest) = .ok (s, rest) := by
  have enough : s.toList.length < (s.toList.flatMap escapedChar ++ '"' :: rest).length + 1 := by
    have := length_le_escaped s.toList
    rw [List.length_append]
    omega
  rw [List.append_assoc, List.singleton_append, readString, readStringFrom_escaped _ enough,
    List.reverse_nil, List.nil_append, String.ofList_toList]

theorem stringChars_append_inj {a b : String} {r s : List Char}
    (h : stringChars a ++ r = stringChars b ++ s) : a = b ∧ r = s := by
  have same : a.toList.flatMap escapedChar ++ ['"'] ++ r = b.toList.flatMap escapedChar ++ ['"'] ++ s :=
    (List.cons.inj h).2
  have read := readString_written a r
  rw [same, readString_written] at read
  cases read
  exact ⟨rfl, rfl⟩

end Json
end EventLedger
