import EventLedger.Proofs.Json.Text

/-! Written values have no control characters, so no line ends inside one. -/

namespace EventLedger

namespace Text

/-- Not a control character, such as those that end lines. -/
def isPrintable (c : Char) : Bool := 0x20 ≤ c.toNat

theorem isPrintable_of_isDigit {c : Char} (digit : isDigit c = true) : isPrintable c = true := by
  simp only [isDigit, Bool.and_eq_true, decide_eq_true_eq, Char.le_def, UInt32.le_iff_toNat_le] at digit
  exact decide_eq_true (Nat.le_trans (by decide) digit.1)

theorem isPrintable_hexDigit (n : Nat) : isPrintable (hexDigit n) = true := by
  have all : ∀ d < 16, isPrintable (hexDigit d) = true := by decide
  have same : hexDigit n = hexDigit (n % 16) := by rw [hexDigit, hexDigit, Nat.mod_mod]
  rw [same]
  exact all _ (Nat.mod_lt _ (by decide))

end Text

open Text

theorem Number.isPrintable_of_isNumeral {c : Char} (numeral : isNumeral c = true) :
    isPrintable c = true := by
  simp only [isNumeral, Binary64.isPointed, Bool.or_eq_true, beq_iff_eq] at numeral
  rcases numeral with (((digit | rfl) | rfl) | rfl) | rfl
  · exact isPrintable_of_isDigit digit
  all_goals decide

theorem Number.printable_chars (n : Number) : n.chars.all isPrintable = true :=
  List.all_eq_true.mpr fun c member => isPrintable_of_isNumeral (isNumeral_of_mem_chars n c member)

namespace Json

theorem printable_escapedChar (c : Char) : (escapedChar c).all isPrintable = true := by
  unfold escapedChar
  split_ifs with quote backslash backspace formFeed feed return_ tab control
  any_goals decide
  · simp only [List.all_cons, isPrintable_hexDigit]
    decide
  · simpa [isPrintable] using control

theorem printable_stringChars (s : String) : (stringChars s).all isPrintable = true := by
  have quote : isPrintable '"' = true := by decide
  simp [stringChars, quote, List.all_flatMap, printable_escapedChar]

mutual

theorem printable_chars (v : Json) : v.chars.all isPrintable = true := by
  match v with
  | .null => decide
  | .bool true => decide
  | .bool false => decide
  | .number n => exact n.printable_chars
  | .string s => exact printable_stringChars s
  | .array [] => decide
  | .array (x :: xs) =>
    simp only [chars, List.all_cons, List.all_append, printable_chars x, printable_items xs]
    decide
  | .object [] => decide
  | .object ((k, v) :: ms) =>
    simp only [chars, List.all_cons, List.all_append, printable_stringChars k, printable_chars v,
      printable_members ms]
    decide

theorem printable_items (xs : List Json) : (itemsChars xs).all isPrintable = true := by
  match xs with
  | [] => rfl
  | x :: xs =>
    simp only [itemsChars, List.all_cons, List.all_append, printable_chars x, printable_items xs]
    decide

theorem printable_members (ms : List (String × Json)) : (membersChars ms).all isPrintable = true := by
  match ms with
  | [] => rfl
  | (k, v) :: ms =>
    simp only [membersChars, List.all_cons, List.all_append, printable_stringChars k, printable_chars v,
      printable_members ms]
    decide

end

end Json
end EventLedger
