import Introspect.Float64
import Mathlib.Algebra.Order.Field.Power
import Mathlib.Algebra.Order.Field.Rat
import Mathlib.Tactic.Linarith
import Mathlib.Tactic.Positivity
import Mathlib.Tactic.Ring

/-!
# `Introspect.Proofs.Float64.Nearest`: exact values, and the nearest whole numbers

A finite double is its significand times a power of two, with a sign (`toRat`). `IsNearest` says
that a whole number is nearest to a value, and farther from zero than the value itself where two
whole numbers are equally near. There is exactly one (`existsUnique_isNearest`), and `roundAway`
computes it for every finite double (`isNearest_roundAway`).

Doubles from `2 ^ 52` on are whole numbers (`exists_int_of_le`), so they are nearest to nothing but
themselves.
-/

set_option autoImplicit false

namespace Introspect

/-! ### The nearest whole number -/

/-- No whole number is nearer to the value, and the one farther from zero is taken of two. -/
def IsNearest (q : ℚ) (n : ℤ) : Prop :=
  |q - n| ≤ 1 / 2 ∧ (|q - n| = 1 / 2 → |q| < |(n : ℚ)|)

namespace IsNearest

variable {q : ℚ} {m n : ℤ}

/-- The sign carries over. -/
theorem neg (h : IsNearest q n) : IsNearest (-q) (-n) := by
  have hdist : |-q - ((-n : ℤ) : ℚ)| = |q - n| := by
    rw [← abs_neg]
    push_cast
    ring_nf
  refine ⟨hdist ▸ h.1, fun heq => ?_⟩
  have hfar := h.2 (hdist ▸ heq)
  push_cast
  rwa [abs_neg, abs_neg]

/-- A whole number is nearest to itself. -/
theorem intCast (n : ℤ) : IsNearest (n : ℚ) n := by
  refine ⟨by norm_num, fun heq => ?_⟩
  norm_num at heq

/-- Of two nearest whole numbers, none is less than the other. -/
theorem not_lt (hm : IsNearest q m) (hn : IsNearest q n) : ¬ m < n := by
  intro hlt
  have hstep : (m : ℚ) + 1 ≤ n := by exact_mod_cast hlt
  obtain ⟨-, hupper⟩ := abs_le.mp hm.1
  obtain ⟨hlower, -⟩ := abs_le.mp hn.1
  -- Both are half a unit away, so the value lies right between them.
  have hbelow : q - m = 1 / 2 := by linarith
  have habove : q - n = -(1 / 2) := by linarith
  have hfar := hm.2 (by rw [hbelow]; norm_num)
  have hfar' := hn.2 (by rw [habove]; norm_num)
  rcases lt_or_ge m 0 with hneg | hpos
  · have hm0 : (m : ℚ) + 1 ≤ 0 := by exact_mod_cast hneg
    rw [abs_of_nonpos (by linarith), abs_of_nonpos (by linarith)] at hfar'
    linarith
  · have hm0 : (0 : ℚ) ≤ m := by exact_mod_cast hpos
    rw [abs_of_nonneg (by linarith), abs_of_nonneg (by linarith)] at hfar
    linarith

/-- There is one nearest whole number at most. -/
theorem unique (hm : IsNearest q m) (hn : IsNearest q n) : m = n :=
  Int.le_antisymm (Int.not_lt.mp (hn.not_lt hm)) (Int.not_lt.mp (hm.not_lt hn))

end IsNearest

/-- The rounded quotient is the whole number nearest to the quotient. -/
theorem Decimal.isNearest_roundHalfUp (num den : Nat) (hden : 0 < den) :
    IsNearest ((num : ℚ) / den) (roundHalfUp num den) := by
  obtain ⟨hlow, hhigh⟩ := roundHalfUp_bounds num den hden
  set n := roundHalfUp num den
  have hden' : (0 : ℚ) < den := by exact_mod_cast hden
  have hlow' : 2 * (den : ℚ) * n ≤ 2 * num + den := by exact_mod_cast hlow
  have hhigh' : 2 * (num : ℚ) < 2 * den * n + den := by exact_mod_cast hhigh
  have hbelow : (n : ℚ) - 1 / 2 ≤ num / den := by
    rw [le_div_iff₀ hden']
    linarith
  have habove : (num : ℚ) / den < n + 1 / 2 := by
    rw [div_lt_iff₀ hden']
    linarith
  rw [IsNearest, Int.cast_natCast]
  refine ⟨abs_le.mpr ⟨by linarith, by linarith⟩, fun heq => ?_⟩
  -- A half goes up, and the quotient is not below zero.
  have hhalf : (num : ℚ) / den - n = -(1 / 2) := by
    rcases (abs_eq (by norm_num)).mp heq with hup | hdown
    · linarith
    · exact hdown
  have hquot : (0 : ℚ) ≤ num / den := by positivity
  rw [abs_of_nonneg hquot, abs_of_nonneg (Nat.cast_nonneg n)]
  linarith

namespace Float64

variable {x : Float64}

/-! ### Exact values -/

/-- The exact value of a finite number: the significand times a power of two, with the sign. -/
def toRat (x : Float64) : ℚ :=
  (if x.isNegative then -1 else 1) * (x.significand * 2 ^ x.scale)

/-- The fraction has 52 bits, and the hidden bit comes in front. -/
theorem significand_lt (x : Float64) : x.significand < 2 ^ 53 := by
  have hfraction : x.fractionField < 2 ^ 52 := by
    unfold fractionField
    rw [UInt64.toNat_and]
    exact Nat.and_lt_two_pow _ (by decide)
  unfold significand
  have hhidden : Nat.pow 2 52 = 2 ^ 52 := rfl
  split <;> omega

/-- The magnitude is the exact value without its sign. -/
theorem magnitude_eq (x : Float64) :
    0 < x.magnitude.2 ∧ (x.magnitude.1 : ℚ) / x.magnitude.2 = x.significand * 2 ^ x.scale := by
  have hpow : ∀ n : Nat, ((Nat.pow 2 n : Nat) : ℚ) = 2 ^ n := fun n => by
    exact_mod_cast rfl
  refine ⟨Nat.pow_pos (by decide), ?_⟩
  simp only [magnitude]
  push_cast [hpow]
  rcases Int.le_total 0 x.scale with hscale | hscale
  · obtain ⟨k, hk⟩ := Int.eq_ofNat_of_zero_le hscale
    rw [hk]
    simp
  · obtain ⟨k, hk⟩ := Int.eq_ofNat_of_zero_le (Int.neg_nonneg.mpr hscale)
    obtain hscale : x.scale = -(k : ℤ) := by omega
    rw [hscale]
    simp [div_eq_mul_inv]

/-- Rounding gives the whole number nearest to the exact value. -/
theorem isNearest_roundAway (x : Float64) : IsNearest x.toRat x.roundAway := by
  obtain ⟨hden, hvalue⟩ := x.magnitude_eq
  have hmagnitude := Decimal.isNearest_roundHalfUp x.magnitude.1 x.magnitude.2 hden
  rw [hvalue] at hmagnitude
  unfold toRat roundAway
  dsimp only
  cases x.isNegative with
  | false => simpa using hmagnitude
  | true => simpa using hmagnitude.neg

/-- There is exactly one whole number nearest to a finite number. -/
theorem existsUnique_isNearest (x : Float64) : ∃! n : ℤ, IsNearest x.toRat n :=
  ⟨x.roundAway, x.isNearest_roundAway, fun _ hn => hn.unique x.isNearest_roundAway⟩

/-- From `2 ^ 52` on there are no fractions: the last place of the significand is at least one. -/
theorem exists_int_of_le (h : 2 ^ 52 ≤ |x.toRat|) : ∃ n : ℤ, x.toRat = n := by
  have hsign : |x.toRat| = x.significand * 2 ^ x.scale := by
    have hnonneg : (0 : ℚ) ≤ x.significand * 2 ^ x.scale := by positivity
    unfold toRat
    split <;> simp [abs_of_nonneg hnonneg]
  have hscale : 0 ≤ x.scale := by
    by_contra hneg
    have hhalf : (2 : ℚ) ^ x.scale ≤ 2 ^ (-1 : ℤ) :=
      zpow_le_zpow_right₀ (by norm_num) (by omega)
    have hsignificand : (x.significand : ℚ) < 2 ^ 53 := by exact_mod_cast x.significand_lt
    have hsmall : |x.toRat| < 2 ^ 52 := by
      calc |x.toRat| = x.significand * 2 ^ x.scale := hsign
        _ ≤ x.significand * 2 ^ (-1 : ℤ) := mul_le_mul_of_nonneg_left hhalf (by positivity)
        _ < 2 ^ 53 * 2 ^ (-1 : ℤ) := mul_lt_mul_of_pos_right hsignificand (by positivity)
        _ = 2 ^ 52 := by norm_num
    exact absurd h (not_le.mpr hsmall)
  obtain ⟨k, hk⟩ := Int.eq_ofNat_of_zero_le hscale
  refine ⟨(if x.isNegative then -1 else 1) * (x.significand * 2 ^ k), ?_⟩
  unfold toRat
  rw [hk]
  push_cast
  simp

end Float64

end Introspect
