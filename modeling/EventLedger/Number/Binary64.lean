namespace EventLedger

/-- A finite binary64 number: a sign, and a magnitude of `significand` units of
    `2 ^ scale / 2 ^ 1074`. Zero keeps its sign. The significand has 53 bits, fewer only at the
    least scale, so each number has one form. -/
structure Binary64 where
  negative : Bool
  significand : Nat
  scale : Nat
  significand_lt : significand < Nat.pow 2 53
  le_significand : 0 < scale → Nat.pow 2 52 ≤ significand
  scale_le : scale ≤ 2045
deriving DecidableEq, Repr

namespace Binary64

def zero : Binary64 := ⟨false, 0, 0, by decide, by simp, by simp⟩

def isZero (x : Binary64) : Bool := x.significand == 0

def negate (x : Binary64) : Binary64 := { x with negative := !x.negative }

def same (x y : Binary64) : Bool := (x.isZero && y.isZero) || x == y

/-- The significand and scale of the nearest magnitude to `num / den`, an exact half going to the
    even neighbour. -/
def rounded (num den : Nat) : Nat × Nat :=
  let units := num * Nat.pow 2 1074
  let scale := (units / den).log2 - 52
  let step := den * Nat.pow 2 scale
  let below := units / step
  let rest := units % step
  let up := step < 2 * rest || (2 * rest == step && below % 2 == 1)
  let m := if up then below + 1 else below
  if m = Nat.pow 2 53 then (Nat.pow 2 52, scale + 1) else (m, scale)

theorem div_scale_bounds (q : Nat) :
    q / Nat.pow 2 (q.log2 - 52) < Nat.pow 2 53 ∧
      (0 < q.log2 - 52 → Nat.pow 2 52 ≤ q / Nat.pow 2 (q.log2 - 52)) := by
  simp only [Nat.pow_eq]
  have pos : 0 < 2 ^ (q.log2 - 52) := Nat.two_pow_pos _
  constructor
  · rw [Nat.div_lt_iff_lt_mul pos, ← Nat.pow_add]
    exact Nat.lt_of_lt_of_le Nat.lt_log2_self (Nat.pow_le_pow_right (by decide) (by omega))
  · intro h
    have ne : q ≠ 0 := by
      intro zero
      subst zero
      simp at h
    rw [Nat.le_div_iff_mul_le pos, ← Nat.pow_add]
    exact Nat.le_trans (Nat.pow_le_pow_right (by decide) (by omega)) (Nat.log2_self_le ne)

theorem rounded_normal (num den : Nat) :
    (rounded num den).1 < Nat.pow 2 53 ∧
      (0 < (rounded num den).2 → Nat.pow 2 52 ≤ (rounded num den).1) := by
  simp only [rounded]
  generalize num * Nat.pow 2 1074 = units
  have bounds := div_scale_bounds (units / den)
  simp only [Nat.pow_eq, ← Nat.div_div_eq_div_mul] at bounds ⊢
  generalize units / den = q at bounds ⊢
  generalize q.log2 - 52 = scale at bounds ⊢
  generalize q / 2 ^ scale = below at bounds ⊢
  generalize (_ || _ : Bool) = up
  have hm : below ≤ (if up then below + 1 else below) ∧ (if up then below + 1 else below) ≤ below + 1 := by
    split <;> omega
  generalize (if up then below + 1 else below) = m at hm ⊢
  split
  · exact ⟨Nat.pow_lt_pow_right (by decide) (by decide), fun _ => Nat.le_refl _⟩
  · exact ⟨by omega, fun h => Nat.le_trans (bounds.2 h) hm.1⟩

def ofRatio (num den : Nat) : Option Binary64 :=
  if h : 2045 < (rounded num den).2 then none
  else
    some ⟨false, (rounded num den).1, (rounded num den).2, (rounded_normal num den).1,
      (rounded_normal num den).2, Nat.le_of_not_lt h⟩

def numerator (x : Binary64) : Nat := x.significand * Nat.pow 2 x.scale

def denominator : Nat := Nat.pow 2 1074

def ofNat? (n : Nat) : Option Binary64 := ofRatio n 1

def mul? (x y : Binary64) : Option Binary64 :=
  ofRatio (x.numerator * y.numerator) (denominator * denominator)

def div? (x y : Binary64) : Option Binary64 := ofRatio x.numerator y.numerator

def powerOfTen (k : Nat) : Binary64 := (ofNat? (Nat.pow 10 k)).getD zero

/-- Divides by powers of ten of at most 308 until the exponent is used up; each division
    rounds, and zero stays zero. -/
def divideByPower (x : Binary64) (k : Nat) : Binary64 :=
  if x.isZero then x
  else if k ≤ 308 then (x.div? (powerOfTen k)).getD zero
  else divideByPower ((x.div? (powerOfTen 308)).getD zero) (k - 308)
termination_by k

/-- `digits · 10 ^ exponent`, taken in two roundings: first the digits, then the product with or
    quotient by the rounded power of ten. `none` when the number is too large. -/
def ofScientific (digits : Nat) (exponent : Int) : Option Binary64 := do
  let x ← ofNat? digits
  if exponent < 0 then return x.divideByPower exponent.natAbs
  else if exponent ≤ 308 then x.mul? (powerOfTen exponent.natAbs)
  else if x.isZero then return x
  else none

def nearestInt (x : Binary64) : Int :=
  let magnitude := (2 * x.numerator + denominator) / (2 * denominator)
  if x.negative then -(magnitude : Int) else magnitude

end Binary64
end EventLedger
