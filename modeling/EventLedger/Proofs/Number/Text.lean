import EventLedger.Json.Printer
import EventLedger.Proofs.Number.Shortest

/-! No two numbers have one text. -/

namespace EventLedger

namespace Binary64

open Text

def isPointed (c : Char) : Bool := isDigit c || c == '.'

theorem isPointed_of_isDigit {c : Char} (digit : isDigit c = true) : isPointed c = true := by
  rw [isPointed, digit, Bool.true_or]

theorem not_isDigit_point : isDigit '.' = false := by decide

def IsScientific (digits : List Char) (last : Int) : Prop :=
  last + digits.length - 1 < -5 ∨ 16 ≤ last + digits.length - 1

theorem isPointed_of_mem_mantissa {digits : List Char} (all : ∀ c ∈ digits, isDigit c = true) :
    ∀ c ∈ mantissa digits, isPointed c = true := by
  intro c member
  match digits with
  | [] => cases member
  | [d] => exact isPointed_of_isDigit (all c member)
  | d :: e :: rest =>
    simp only [mantissa, List.mem_cons] at member
    rcases member with rfl | rfl | member
    · exact isPointed_of_isDigit (all c List.mem_cons_self)
    · rfl
    · exact isPointed_of_isDigit (all c (List.mem_cons_of_mem _ (List.mem_cons.mpr member)))

theorem filter_mantissa {digits : List Char} (all : ∀ c ∈ digits, isDigit c = true) :
    (mantissa digits).filter isDigit = digits := by
  have whole : digits.filter isDigit = digits := List.filter_eq_self.mpr all
  match digits with
  | [] => rfl
  | [d] => exact whole
  | d :: e :: rest =>
    rw [List.filter_cons_of_pos (all d List.mem_cons_self)] at whole
    rw [mantissa, List.filter_cons_of_pos (all d List.mem_cons_self),
      List.filter_cons_of_neg (by rw [not_isDigit_point]; exact Bool.false_ne_true), whole]
    simp

theorem digitsText_scientific {digits : List Char} {last : Int} (scientific : IsScientific digits last) :
    digitsText digits last = mantissa digits ++ 'e' ::
      (if last + digits.length - 1 < 0 then '-' else '+') ::
        decimalDigits (last + digits.length - 1).natAbs := by
  unfold IsScientific at scientific
  simp only [digitsText, if_pos scientific]

/-- A text with digits on both sides of a point that denotes given digits at a given place. -/
def IsFixed (text digits : List Char) (last : Int) : Prop :=
  ∃ whole part, text = whole ++ '.' :: part ∧ whole ≠ [] ∧
    (∀ c ∈ whole, isDigit c = true) ∧ (∀ c ∈ part, isDigit c = true) ∧
    (digitsValue (whole ++ part) : ℚ) = digitsValue digits * (10 : ℚ) ^ (last + part.length)

theorem isDigit_of_mem_zeros (count : Nat) : ∀ c ∈ List.replicate count '0', isDigit c = true := by
  intro c member
  rw [List.eq_of_mem_replicate member]
  decide

theorem isFixed_below_one {digits : List Char} {last : Int} {count : Nat}
    (all : ∀ c ∈ digits, isDigit c = true) (places : last + (count + digits.length : ℕ) = 0) :
    IsFixed (['0', '.'] ++ List.replicate count '0' ++ digits) digits last := by
  refine ⟨['0'], List.replicate count '0' ++ digits, ?_, List.cons_ne_nil _ _, ?_, ?_, ?_⟩
  · simp only [List.cons_append, List.nil_append]
  · exact isDigit_of_mem_zeros 1
  · intro c member
    exact (List.mem_append.mp member).elim (isDigit_of_mem_zeros count c) (all c)
  · have leading : digitsValue ['0'] = 0 := rfl
    rw [List.length_append, List.length_replicate, places, zpow_zero, mul_one, digitsValue_append,
      digitsValue_append, digitsValue_zeros, leading]
    simp only [Nat.zero_mul, Nat.zero_add]

theorem isFixed_whole {digits : List Char} {last : Int} (all : ∀ c ∈ digits, isDigit c = true)
    (some : digits ≠ []) (whole : 0 ≤ last) :
    IsFixed (digits ++ List.replicate last.natAbs '0' ++ ['.', '0']) digits last := by
  refine ⟨digits ++ List.replicate last.natAbs '0', ['0'], rfl, ?_, ?_, isDigit_of_mem_zeros 1, ?_⟩
  · exact List.append_ne_nil_of_left_ne_nil some _
  · intro c member
    exact (List.mem_append.mp member).elim (all c) (isDigit_of_mem_zeros _ c)
  · have places : last + ['0'].length = (last.natAbs + 1 : ℕ) := by
      rw [List.length_singleton]
      omega
    rw [places, zpow_natCast, List.append_assoc, digitsValue_append, digitsValue_append,
      digitsValue_zeros]
    simp [digitsValue, pow_succ]

theorem isFixed_split {digits : List Char} {last : Int} {count : Nat}
    (all : ∀ c ∈ digits, isDigit c = true) (some : digits ≠ [])
    (places : last + (digits.length - (count + 1) : ℕ) = 0) :
    IsFixed (digits.take (count + 1) ++ '.' :: digits.drop (count + 1)) digits last := by
  refine ⟨digits.take (count + 1), digits.drop (count + 1), rfl, ?_, ?_, ?_, ?_⟩
  · simpa using some
  · exact fun c member => all c (List.mem_of_mem_take member)
  · exact fun c member => all c (List.mem_of_mem_drop member)
  · rw [List.length_drop, places, zpow_zero, mul_one, List.take_append_drop]

/-- What is written without an exponent denotes what the digits denote. -/
theorem digitsText_fixed {digits : List Char} {last : Int} (all : ∀ c ∈ digits, isDigit c = true)
    (some : digits ≠ []) (fixed : ¬ IsScientific digits last) :
    IsFixed (digitsText digits last) digits last := by
  have length := List.length_pos_of_ne_nil some
  unfold IsScientific at fixed
  simp only [digitsText, if_neg fixed]
  by_cases small : last + digits.length - 1 < 0
  · rw [if_pos small]
    exact isFixed_below_one all (by omega)
  · by_cases whole : 0 ≤ last
    · rw [if_neg small, if_pos whole]
      exact isFixed_whole all some whole
    · rw [if_neg small, if_neg whole]
      exact isFixed_split all some (by omega)

theorem ends_exponent (rest : List Char) : Ends isPointed ('e' :: rest) := Ends.cons (by decide) rest

theorem ends_point (rest : List Char) : Ends isDigit ('.' :: rest) := Ends.cons not_isDigit_point rest

theorem isPointed_of_mem_fixed {whole part : List Char} (hw : ∀ c ∈ whole, isDigit c = true)
    (hp : ∀ c ∈ part, isDigit c = true) : ∀ c ∈ whole ++ '.' :: part, isPointed c = true := by
  intro c member
  rw [List.mem_append, List.mem_cons] at member
  rcases member with member | rfl | member
  · exact isPointed_of_isDigit (hw c member)
  · rfl
  · exact isPointed_of_isDigit (hp c member)

theorem fixed_ne_scientific {digits digits' : List Char} {last last' : Int}
    (all : ∀ c ∈ digits, isDigit c = true) (all' : ∀ c ∈ digits', isDigit c = true)
    (some : digits ≠ []) (fixed : ¬ IsScientific digits last)
    (scientific : IsScientific digits' last') : digitsText digits last ≠ digitsText digits' last' := by
  intro h
  obtain ⟨whole, part, text, -, hw, hp, -⟩ := digitsText_fixed all some fixed
  rw [text, digitsText_scientific scientific, ← List.append_nil (whole ++ '.' :: part)] at h
  obtain ⟨-, rest⟩ := run_append_inj (isPointed_of_mem_fixed hw hp) (isPointed_of_mem_mantissa all')
    (Ends.nil _) (ends_exponent _) h
  cases rest

theorem digitsText_scientific_inj {digits digits' : List Char} {last last' : Int}
    (all : ∀ c ∈ digits, isDigit c = true) (all' : ∀ c ∈ digits', isDigit c = true)
    (scientific : IsScientific digits last) (scientific' : IsScientific digits' last')
    (h : digitsText digits last = digitsText digits' last') : digits = digits' ∧ last = last' := by
  rw [digitsText_scientific scientific, digitsText_scientific scientific'] at h
  obtain ⟨same, rest⟩ := run_append_inj (isPointed_of_mem_mantissa all)
    (isPointed_of_mem_mantissa all') (ends_exponent _) (ends_exponent _) h
  have digitsEq : digits = digits' := by rw [← filter_mantissa all, same, filter_mantissa all']
  subst digitsEq
  obtain ⟨-, rest⟩ := List.cons.inj rest
  obtain ⟨sign, lead⟩ := List.cons.inj rest
  have size := decimalDigits_injective lead
  refine ⟨rfl, ?_⟩
  split at sign <;> split at sign
  · omega
  · cases sign
  · cases sign
  · omega

theorem digitsText_value {digits digits' : List Char} {last last' : Int}
    (all : ∀ c ∈ digits, isDigit c = true) (all' : ∀ c ∈ digits', isDigit c = true)
    (some : digits ≠ []) (some' : digits' ≠ [])
    (h : digitsText digits last = digitsText digits' last') :
    (digitsValue digits : ℚ) * (10 : ℚ) ^ last = digitsValue digits' * (10 : ℚ) ^ last' := by
  by_cases scientific : IsScientific digits last <;> by_cases scientific' : IsScientific digits' last'
  · obtain ⟨rfl, rfl⟩ := digitsText_scientific_inj all all' scientific scientific' h
    rfl
  · exact absurd h.symm (fixed_ne_scientific all' all some' scientific' scientific)
  · exact absurd h (fixed_ne_scientific all all' some scientific scientific')
  · obtain ⟨whole, part, text, -, hw, -, value⟩ := digitsText_fixed all some scientific
    obtain ⟨whole', part', text', -, hw', -, value'⟩ := digitsText_fixed all' some' scientific'
    -- the points stand at one place, so the places of the last digits differ as the digits do
    rw [text, text'] at h
    obtain ⟨rfl, rest⟩ := run_append_inj hw hw' (ends_point _) (ends_point _) h
    obtain ⟨-, rfl⟩ := List.cons.inj rest
    rw [value, zpow_add₀ (by norm_num), zpow_add₀ (by norm_num), ← mul_assoc, ← mul_assoc] at value'
    exact mul_right_cancel₀ (by positivity) value'

theorem rounds_zero {x : Binary64} (zero : x.isZero = true) : x.Rounds 0 := by
  have significand : x.significand = 0 := eq_of_beq zero
  have least : x.lower = 0 := by
    unfold lower
    split <;> omega
  constructor
  · rw [least, zero_mul, zero_mul, Nat.cast_zero]
  · rw [zero_mul]
    exact Nat.cast_nonneg _
  · omega
  · omega

/-- A number is written as digits that denote a point that rounds to it. -/
theorem chars_eq (x : Binary64) : ∃ (d : Nat) (last : Int),
    x.chars = (if x.negative then ['-'] else []) ++ digitsText (decimalDigits d) last ∧
      x.Rounds (d * (10 : ℚ) ^ last) := by
  cases zero : x.isZero with
  | true =>
    refine ⟨0, 0, ?_, ?_⟩
    · have digits : decimalDigits 0 = ['0'] := by
        rw [decimalDigits]
        rfl
      rw [chars, if_pos zero, digits]
      rfl
    · rw [Nat.cast_zero, zero_mul]
      exact rounds_zero zero
  | false =>
    have pos : 0 < x.significand := Nat.pos_of_ne_zero (bne_iff_ne.mp (by rw [bne, ← isZero, zero]; rfl))
    have rounds := shortest_rounds pos
    rcases digits : x.shortest with ⟨d, last⟩
    rw [digits] at rounds
    refine ⟨d, last, ?_, rounds⟩
    rw [chars, if_neg (by rw [zero]; exact Bool.false_ne_true), digits]

theorem head_digitsText {digits : List Char} (last : Int) (all : ∀ c ∈ digits, isDigit c = true)
    (some : digits ≠ []) : ∃ c rest, digitsText digits last = c :: rest ∧ isDigit c = true := by
  by_cases scientific : IsScientific digits last
  · rw [digitsText_scientific scientific]
    match digits with
    | [] => exact absurd rfl some
    | [d] => exact ⟨d, _, rfl, all d List.mem_cons_self⟩
    | d :: e :: rest => exact ⟨d, _, rfl, all d List.mem_cons_self⟩
  · obtain ⟨whole, part, text, ne, hw, -, -⟩ := digitsText_fixed all some scientific
    obtain ⟨c, rest, rfl⟩ := List.exists_cons_of_ne_nil ne
    exact ⟨c, rest ++ '.' :: part, text, hw c List.mem_cons_self⟩

/-- Even the sign of zero shows in the text. -/
theorem chars_injective {x y : Binary64} (h : x.chars = y.chars) : x = y := by
  obtain ⟨d, last, text, rounds⟩ := chars_eq x
  obtain ⟨d', last', text', rounds'⟩ := chars_eq y
  have digits := isDigit_of_mem_decimalDigits d
  have digits' := isDigit_of_mem_decimalDigits d'
  have minus : isDigit '-' = false := by decide
  obtain ⟨c, rest, first, digit⟩ := head_digitsText last digits (decimalDigits_ne_nil d)
  obtain ⟨c', rest', first', digit'⟩ := head_digitsText last' digits' (decimalDigits_ne_nil d')
  rw [text, text'] at h
  have same : x.negative = y.negative ∧
      digitsText (decimalDigits d) last = digitsText (decimalDigits d') last' := by
    cases hx : x.negative <;> cases hy : y.negative <;> rw [hx, hy] at h
    · exact ⟨rfl, h⟩
    · rw [first] at h
      rw [(List.cons.inj h).1, minus] at digit
      cases digit
    · rw [first'] at h
      rw [← (List.cons.inj h).1, minus] at digit'
      cases digit'
    · exact ⟨rfl, (List.cons.inj h).2⟩
  have value := digitsText_value digits digits' (decimalDigits_ne_nil d) (decimalDigits_ne_nil d') same.2
  rw [digitsValue_decimalDigits, digitsValue_decimalDigits] at value
  rw [← value] at rounds'
  obtain ⟨significand, scale⟩ := rounds.unique rounds'
  cases x
  cases y
  simp only at same significand scale
  obtain ⟨rfl, -⟩ := same
  subst significand
  subst scale
  rfl

end Binary64

namespace Number

open Text Binary64

def isNumeral (c : Char) : Bool := isPointed c || c == 'e' || c == '+' || c == '-'

theorem isNumeral_of_isPointed {c : Char} (pointed : isPointed c = true) : isNumeral c = true := by
  simp only [isNumeral, pointed, Bool.true_or]

theorem isNumeral_of_mem_digitsText {digits : List Char} (last : Int)
    (all : ∀ c ∈ digits, isDigit c = true) (some : digits ≠ []) :
    ∀ c ∈ digitsText digits last, isNumeral c = true := by
  intro c member
  by_cases scientific : IsScientific digits last
  · rw [digitsText_scientific scientific, List.mem_append, List.mem_cons, List.mem_cons] at member
    rcases member with member | rfl | rfl | member
    · exact isNumeral_of_isPointed (isPointed_of_mem_mantissa all c member)
    · decide
    · split <;> decide
    · exact isNumeral_of_isPointed (isPointed_of_isDigit (isDigit_of_mem_decimalDigits _ c member))
  · obtain ⟨whole, part, text, -, hw, hp, -⟩ := digitsText_fixed all some scientific
    rw [text] at member
    exact isNumeral_of_isPointed (isPointed_of_mem_fixed hw hp c member)

/-- A float is told from an integer by its point or exponent. -/
theorem exists_mark (x : Binary64) : ∃ c ∈ x.chars, ¬ (c = '-' ∨ isDigit c = true) := by
  obtain ⟨d, last, text, -⟩ := chars_eq x
  rw [text]
  have digits := isDigit_of_mem_decimalDigits d
  by_cases scientific : IsScientific (decimalDigits d) last
  · refine ⟨'e', ?_, by decide⟩
    rw [digitsText_scientific scientific]
    simp
  · refine ⟨'.', ?_, by decide⟩
    obtain ⟨whole, part, text, -⟩ := digitsText_fixed digits (decimalDigits_ne_nil d) scientific
    rw [text]
    simp

theorem isNumeral_of_mem_chars (n : Number) : ∀ c ∈ n.chars, isNumeral c = true := by
  intro c member
  cases n with
  | integer i =>
    rcases signedDigits_cases i c member with rfl | digit
    · decide
    · exact isNumeral_of_isPointed (isPointed_of_isDigit digit)
  | float x =>
    obtain ⟨d, last, text, -⟩ := chars_eq x
    have digits := isDigit_of_mem_decimalDigits d
    rw [chars, text, List.mem_append] at member
    rcases member with member | member
    · split at member
      · rw [List.mem_singleton.mp member]
        decide
      · cases member
    · exact isNumeral_of_mem_digitsText last digits (decimalDigits_ne_nil d) c member

theorem head_chars (n : Number) : ∃ c rest, n.chars = c :: rest ∧ (c = '-' ∨ isDigit c = true) := by
  cases n with
  | integer i =>
    obtain ⟨c, rest, text⟩ := List.exists_cons_of_ne_nil (signedDigits_ne_nil i)
    exact ⟨c, rest, text, signedDigits_cases i c (by rw [text]; exact List.mem_cons_self)⟩
  | float x =>
    obtain ⟨d, last, text, -⟩ := chars_eq x
    obtain ⟨c, rest, first, digit⟩ :=
      head_digitsText last (isDigit_of_mem_decimalDigits d) (decimalDigits_ne_nil d)
    rw [chars, text, first]
    split
    · exact ⟨'-', c :: rest, rfl, Or.inl rfl⟩
    · exact ⟨c, rest, rfl, Or.inr digit⟩

theorem chars_injective {m n : Number} (h : m.chars = n.chars) : m = n := by
  have apart (i : Int) (x : Binary64) : signedDigits i ≠ x.chars := by
    intro same
    obtain ⟨c, member, mark⟩ := exists_mark x
    exact mark (signedDigits_cases i c (same ▸ member))
  cases m with
  | integer i =>
    cases n with
    | integer j => rw [signedDigits_injective h]
    | float y => exact absurd h (apart i y)
  | float x =>
    cases n with
    | integer j => exact absurd h.symm (apart j x)
    | float y => rw [Binary64.chars_injective h]

end Number

end EventLedger
