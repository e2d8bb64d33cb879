import EventLedger.Number.Shortest
import EventLedger.Proofs.Text.Digits
import Mathlib.Algebra.Order.Field.Power
import Mathlib.Algebra.Order.Field.Rat
import Mathlib.Tactic.FieldSimp
import Mathlib.Tactic.Linarith
import Mathlib.Tactic.Positivity

/-! The shortest digits of a number denote a point that rounds to this number and to no other. -/

namespace EventLedger.Binary64

/-- The ends of the interval that rounds to a magnitude, in quarters of its last place. -/
def lower (x : Binary64) : Nat :=
  if x.significand = 2 ^ 52 ∧ 0 < x.scale then 4 * x.significand - 1 else 4 * x.significand - 2

def upper (x : Binary64) : Nat := 4 * x.significand + 2

structure Rounds (x : Binary64) (q : ℚ) : Prop where
  lower_le : (x.lower * 2 ^ x.scale : ℕ) ≤ q * (4 * denominator)
  le_upper : q * (4 * denominator) ≤ (x.upper * 2 ^ x.scale : ℕ)
  lower_ne : x.significand % 2 = 1 → q * (4 * denominator) ≠ (x.lower * 2 ^ x.scale : ℕ)
  ne_upper : x.significand % 2 = 1 → q * (4 * denominator) ≠ (x.upper * 2 ^ x.scale : ℕ)

theorem denominator_pos : 0 < denominator := by
  unfold denominator
  generalize 1074 = n
  exact Nat.two_pow_pos n

theorem denominator_le : denominator ≤ 10 ^ 400 := by
  have bound : 1074 ≤ 3 * 400 := by decide
  unfold denominator
  generalize 1074 = n at bound ⊢
  generalize 400 = k at bound ⊢
  calc 2 ^ n ≤ 2 ^ (3 * k) := Nat.pow_le_pow_right (by decide) bound
    _ = 8 ^ k := Nat.pow_mul 2 3 k
    _ ≤ 10 ^ k := Nat.pow_le_pow_left (by decide) k

theorem roundsTo_iff (x : Binary64) (num : Nat) {den : Nat} (pos : 0 < den) :
    x.roundsTo num den = true ↔ x.Rounds (num / den : ℚ) := by
  have hden : (0 : ℚ) < den := by exact_mod_cast pos
  have point : (num / den : ℚ) * (4 * denominator) = (num * (4 * denominator) : ℕ) / den := by
    push_cast
    ring
  have le (a : ℕ) : a * den ≤ num * (4 * denominator) ↔ (a : ℚ) ≤ (num / den : ℚ) * (4 * denominator) := by
    rw [point, le_div_iff₀ hden]
    exact_mod_cast Iff.rfl
  have ge (a : ℕ) : num * (4 * denominator) ≤ a * den ↔ (num / den : ℚ) * (4 * denominator) ≤ a := by
    rw [point, div_le_iff₀ hden]
    exact_mod_cast Iff.rfl
  have low : (if x.significand = Nat.pow 2 52 && 0 < x.scale then 4 * x.significand - 1
      else 4 * x.significand - 2) = x.lower := by
    simp only [lower, Nat.pow_eq, Bool.and_eq_true, decide_eq_true_eq]
  have high : 4 * x.significand + 2 = x.upper := rfl
  unfold roundsTo
  simp only [low, high, Nat.pow_eq]
  split
  · rename_i even
    rw [Bool.and_eq_true, decide_eq_true_eq, decide_eq_true_eq, le, ge]
    exact ⟨fun h => ⟨h.1, h.2, by omega, by omega⟩, fun h => ⟨h.lower_le, h.le_upper⟩⟩
  · rename_i odd
    rw [Bool.and_eq_true, decide_eq_true_eq, decide_eq_true_eq, ← not_le, ← not_le, ge, le, not_le, not_le]
    exact ⟨fun h => ⟨h.1.le, h.2.le, fun _ => h.1.ne', fun _ => h.2.ne⟩, fun h =>
      ⟨lt_of_le_of_ne h.lower_le (h.lower_ne (by omega)).symm,
        lt_of_le_of_ne h.le_upper (h.ne_upper (by omega))⟩⟩

theorem Rounds.meet {x y : Binary64} {q : ℚ} (hx : x.Rounds q) (hy : y.Rounds q) :
    y.lower * 2 ^ y.scale ≤ x.upper * 2 ^ x.scale := by
  exact_mod_cast hy.lower_le.trans hx.le_upper

/-- Neighbours share no point, since one of them is odd. -/
theorem Rounds.meet_lt {x y : Binary64} {q : ℚ} (hx : x.Rounds q) (hy : y.Rounds q)
    (odd : x.significand % 2 = 1 ∨ y.significand % 2 = 1) :
    y.lower * 2 ^ y.scale < x.upper * 2 ^ x.scale := by
  rcases odd with odd | odd
  · exact_mod_cast lt_of_le_of_lt hy.lower_le (lt_of_le_of_ne hx.le_upper (hx.ne_upper odd))
  · exact_mod_cast lt_of_lt_of_le (lt_of_le_of_ne hy.lower_le (hy.lower_ne odd).symm) hx.le_upper

theorem lower_bounds (x : Binary64) :
    4 * x.significand - 2 ≤ x.lower ∧ x.lower ≤ 4 * x.significand ∧
      (0 < x.scale → 2 ^ 54 - 1 ≤ x.lower) := by
  have normal := x.le_significand
  rw [Nat.pow_eq] at normal
  unfold lower
  split
  · omega
  · refine ⟨by omega, by omega, fun scaled => ?_⟩
    have := normal scaled
    omega

theorem Rounds.significand_le {x y : Binary64} {q : ℚ} (hx : x.Rounds q) (hy : y.Rounds q)
    (level : x.scale = y.scale) : y.significand ≤ x.significand := by
  by_contra less
  have meet := hx.meet hy
  have bounds := lower_bounds y
  have pos : 0 < 2 ^ y.scale := Nat.two_pow_pos _
  rw [level] at meet
  have close : y.lower ≤ x.upper := Nat.le_of_mul_le_mul_right meet pos
  unfold upper at close
  have meet := hx.meet_lt hy (by omega)
  rw [level] at meet
  have apart : y.lower < x.upper := Nat.lt_of_mul_lt_mul_right meet
  unfold upper at apart
  omega

theorem Rounds.scale_le {x y : Binary64} {q : ℚ} (hx : x.Rounds q) (hy : y.Rounds q) :
    y.scale ≤ x.scale := by
  by_contra less
  obtain ⟨k, scaled⟩ : ∃ k, y.scale = x.scale + (k + 1) := ⟨y.scale - x.scale - 1, by omega⟩
  have below := x.significand_lt
  rw [Nat.pow_eq] at below
  have above := (lower_bounds y).2.2 (by omega)
  have pos : 0 < 2 ^ x.scale := Nat.two_pow_pos _
  have step : 2 * y.lower ≤ y.lower * 2 ^ (k + 1) := by
    rw [Nat.pow_succ]
    nlinarith [Nat.one_le_two_pow (n := k), Nat.zero_le y.lower]
  have split : y.lower * 2 ^ y.scale = y.lower * 2 ^ (k + 1) * 2 ^ x.scale := by
    rw [scaled, Nat.pow_add]
    ring
  have meet := hx.meet hy
  rw [split] at meet
  have close : y.lower * 2 ^ (k + 1) ≤ x.upper := Nat.le_of_mul_le_mul_right meet pos
  unfold upper at close
  have meet := hx.meet_lt hy (Or.inl (by omega))
  rw [split] at meet
  have apart : y.lower * 2 ^ (k + 1) < x.upper := Nat.lt_of_mul_lt_mul_right meet
  unfold upper at apart
  omega

/-- No point rounds to two magnitudes. -/
theorem Rounds.unique {x y : Binary64} {q : ℚ} (hx : x.Rounds q) (hy : y.Rounds q) :
    x.significand = y.significand ∧ x.scale = y.scale := by
  have scale := Nat.le_antisymm (hy.scale_le hx) (hx.scale_le hy)
  exact ⟨Nat.le_antisymm (hy.significand_le hx scale.symm) (hx.significand_le hy scale), scale⟩

def magnitude (x : Binary64) : ℚ := x.numerator / denominator

theorem magnitude_units (x : Binary64) :
    x.magnitude * (4 * denominator) = (4 * x.significand * 2 ^ x.scale : ℕ) := by
  have pos : (0 : ℚ) < denominator := by exact_mod_cast denominator_pos
  rw [magnitude, numerator, Nat.pow_eq]
  push_cast
  field_simp

theorem lower_gap (x : Binary64) : (x.lower : ℚ) + 4 * x.significand / (2 * 10 ^ 16) < 4 * x.significand
    ∨ x.significand = 0 := by
  have below := x.significand_lt
  rw [Nat.pow_eq] at below
  rcases Nat.eq_zero_or_pos x.significand with zero | pos
  · exact Or.inr zero
  · left
    unfold lower
    split
    · rename_i least
      rw [least.1]
      norm_num
    · have small : (x.significand : ℚ) < 2 ^ 53 := by exact_mod_cast below
      rw [Nat.cast_sub (by omega)]
      push_cast
      linarith

theorem rounds_of_close {x : Binary64} {q : ℚ} (pos : 0 < x.significand)
    (low : x.magnitude - x.magnitude / (2 * 10 ^ 16) ≤ q)
    (high : q ≤ x.magnitude + x.magnitude / (2 * 10 ^ 16)) : x.Rounds q := by
  have units := magnitude_units x
  have scalePos : (0 : ℚ) < 2 ^ x.scale := by positivity
  have unitPos : (0 : ℚ) < 4 * denominator := by exact_mod_cast Nat.mul_pos (by decide) denominator_pos
  have gap := (lower_gap x).resolve_right (Nat.ne_of_gt pos)
  have small : (x.significand : ℚ) < 2 ^ 53 := by exact_mod_cast x.significand_lt
  have lowUnits := mul_le_mul_of_nonneg_right low unitPos.le
  have highUnits := mul_le_mul_of_nonneg_right high unitPos.le
  push_cast at units
  have below : ((x.lower * 2 ^ x.scale : ℕ) : ℚ) < q * (4 * denominator) := by
    push_cast
    nlinarith
  have above : q * (4 * denominator) < ((x.upper * 2 ^ x.scale : ℕ) : ℚ) := by
    unfold upper
    push_cast
    nlinarith
  exact ⟨below.le, above.le, fun _ => below.ne', fun _ => above.ne⟩

theorem nearest_bounds (num : Nat) {den : Nat} (pos : 0 < den) :
    (num / den : ℚ) - 1 / 2 ≤ nearest num den ∧ nearest num den ≤ (num / den : ℚ) + 1 / 2 := by
  have whole := Nat.div_add_mod num den
  have rest := Nat.mod_lt num pos
  have hden : (0 : ℚ) < den := by exact_mod_cast pos
  have bounds : 2 * num ≤ 2 * (den * nearest num den) + den ∧
      2 * (den * nearest num den) ≤ 2 * num + den := by
    unfold nearest
    dsimp only
    split
    · rename_i down
      simp only [Bool.or_eq_true, Bool.and_eq_true, decide_eq_true_eq, beq_iff_eq] at down
      omega
    · rename_i up
      simp only [Bool.or_eq_true, Bool.and_eq_true, decide_eq_true_eq, beq_iff_eq] at up
      rw [Nat.mul_add, Nat.mul_one]
      omega
  have low : (2 * num : ℚ) ≤ 2 * (den * nearest num den) + den := by exact_mod_cast bounds.1
  have high : (2 * (den * nearest num den) : ℚ) ≤ 2 * num + den := by exact_mod_cast bounds.2
  rw [tsub_le_iff_right, div_le_iff₀ hden, div_add' _ _ _ hden.ne', le_div_iff₀ hden]
  constructor <;> linarith

theorem zpow_of_neg {last : Int} (negative : last < 0) :
    ((Nat.pow 10 last.natAbs : ℕ) : ℚ) = ((10 : ℚ) ^ last)⁻¹ := by
  rw [Nat.pow_eq, Nat.cast_pow, Nat.cast_ofNat, ← zpow_natCast, ← zpow_neg]
  congr 1
  omega

theorem zpow_of_nonneg {last : Int} (whole : ¬ last < 0) :
    ((Nat.pow 10 last.natAbs : ℕ) : ℚ) = (10 : ℚ) ^ last := by
  rw [Nat.pow_eq, Nat.cast_pow, Nat.cast_ofNat, ← zpow_natCast]
  congr 1
  omega

theorem accepts_iff (x : Binary64) (d : Nat) (last : Int) :
    x.accepts d last = true ↔ x.Rounds (d * (10 : ℚ) ^ last) := by
  unfold accepts
  split
  · rename_i negative
    have pos : 0 < Nat.pow 10 last.natAbs := Nat.pow_pos (by decide)
    rw [roundsTo_iff _ _ pos, zpow_of_neg negative, div_inv_eq_mul]
  · rename_i whole
    rw [roundsTo_iff _ _ Nat.one_pos, Nat.cast_mul, zpow_of_nonneg whole, Nat.cast_one, div_one]

theorem inUnits_eq (x : Binary64) (last : Int) :
    0 < (x.inUnits last).2 ∧
      ((x.inUnits last).1 / (x.inUnits last).2 : ℚ) * (10 : ℚ) ^ last = x.magnitude := by
  have power : (10 : ℚ) ^ last ≠ 0 := by positivity
  have units : (denominator : ℚ) ≠ 0 := by exact_mod_cast denominator_pos.ne'
  by_cases negative : last < 0
  · simp only [inUnits, magnitude, if_pos negative]
    refine ⟨denominator_pos, ?_⟩
    rw [Nat.cast_mul, zpow_of_neg negative]
    field_simp
  · simp only [inUnits, magnitude, if_neg negative]
    refine ⟨Nat.mul_pos denominator_pos (Nat.pow_pos (by decide)), ?_⟩
    rw [Nat.cast_mul, zpow_of_nonneg negative]
    field_simp

theorem accepts_of_eq_some {x : Binary64} {first second d : Nat} {last e : Int}
    (h : (if x.accepts first last then some (first, last)
      else if x.accepts second last then some (second, last) else none) = some (d, e)) :
    x.accepts d e = true := by
  split at h
  · rename_i accepted
    cases h
    exact accepted
  · split at h
    · rename_i accepted
      cases h
      exact accepted
    · cases h

theorem onGrid_rounds {x : Binary64} {lead : Int} {count d : Nat} {e : Int}
    (h : x.onGrid lead count = some (d, e)) : x.Rounds (d * (10 : ℚ) ^ e) :=
  (accepts_iff x d e).mp (accepts_of_eq_some h)

/-- With seventeen digits the nearest point of the grid rounds to the magnitude. -/
theorem onGrid_seventeen {x : Binary64} {lead : Int} (pos : 0 < x.significand)
    (le : (10 : ℚ) ^ lead ≤ x.magnitude) : (x.onGrid lead 17).isSome = true := by
  have last : lead - ((17 : ℕ) - 1) = lead - 16 := by norm_num
  obtain ⟨hden, ratio⟩ := inUnits_eq x (lead - 16)
  have bounds := nearest_bounds (x.inUnits (lead - 16)).1 hden
  have gridPos : (0 : ℚ) < 10 ^ (lead - 16) := by positivity
  have grid : (10 : ℚ) ^ (lead - 16) ≤ x.magnitude / 10 ^ 16 := by
    rw [zpow_sub₀ (by norm_num)]
    exact div_le_div_of_nonneg_right le (by positivity)
  have low := mul_le_mul_of_nonneg_right bounds.1 gridPos.le
  have high := mul_le_mul_of_nonneg_right bounds.2 gridPos.le
  rw [sub_mul, ratio] at low
  rw [add_mul, ratio] at high
  have accepted : x.accepts (nearest (x.inUnits (lead - 16)).1 (x.inUnits (lead - 16)).2)
      (lead - 16) = true := by
    rw [accepts_iff]
    exact rounds_of_close pos (by linarith) (by linarith)
  simp only [onGrid, last, if_pos accepted, Option.isSome_some]

theorem pow_leadingExponent_le {x : Binary64} (pos : 0 < x.significand) :
    (10 : ℚ) ^ x.leadingExponent ≤ x.magnitude := by
  have units : (0 : ℚ) < denominator := by exact_mod_cast denominator_pos
  have positive : 0 < x.numerator := Nat.mul_pos pos (Nat.two_pow_pos _)
  have room := denominator_le
  unfold leadingExponent magnitude
  generalize places : 400 = n at room ⊢
  simp only [Nat.pow_eq]
  have scaled : 0 < x.numerator * 10 ^ n / denominator :=
    Nat.div_pos (room.trans (Nat.le_mul_of_pos_left _ positive)) denominator_pos
  have digits := Text.pow_le_of_pos scaled
  have first := Text.length_decimalDigits_pos (x.numerator * 10 ^ n / denominator)
  rw [Nat.le_div_iff_mul_le denominator_pos] at digits
  generalize (Text.decimalDigits (x.numerator * 10 ^ n / denominator)).length = count at digits first ⊢
  have bound : (10 : ℚ) ^ (count - 1) * denominator ≤ x.numerator * 10 ^ n := by exact_mod_cast digits
  have lead : (count : Int) - 401 = (count - 1 : ℕ) - (n : Int) := by omega
  rw [lead, zpow_sub₀ (by norm_num), zpow_natCast, zpow_natCast, div_le_div_iff₀ (by positivity) units]
  exact bound

theorem dropZeros_value (fuel d : Nat) (e : Int) :
    ((shortest.dropZeros fuel (d, e)).1 : ℚ) * (10 : ℚ) ^ (shortest.dropZeros fuel (d, e)).2 =
      d * (10 : ℚ) ^ e := by
  induction fuel generalizing d e with
  | zero => rfl
  | succ fuel ih =>
    rw [shortest.dropZeros]
    split
    · rename_i trailing
      obtain ⟨k, rfl⟩ := Nat.dvd_of_mod_eq_zero trailing.2
      rw [ih, Nat.mul_div_cancel_left k (by decide), zpow_add₀ (by norm_num)]
      push_cast
      ring
    · rfl

/-- The shortest digits read back as the number. -/
theorem shortest_rounds {x : Binary64} (pos : 0 < x.significand) :
    x.Rounds (x.shortest.1 * (10 : ℚ) ^ x.shortest.2) := by
  have some := onGrid_seventeen pos (pow_leadingExponent_le pos)
  have search : ((List.range 17).findSome? fun k => x.onGrid x.leadingExponent (k + 1)).isSome :=
    List.findSome?_isSome_iff.mpr ⟨16, by decide, some⟩
  obtain ⟨⟨d, e⟩, found⟩ := Option.isSome_iff_exists.mp search
  obtain ⟨k, -, grid⟩ := List.exists_of_findSome?_eq_some found
  have value := dropZeros_value 20 d e
  simp only [shortest, found, Option.getD_some]
  rw [value]
  exact onGrid_rounds grid

end EventLedger.Binary64
