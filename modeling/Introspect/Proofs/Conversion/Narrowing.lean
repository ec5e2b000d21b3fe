import Introspect.Proofs.Conversion.Boxed
import Introspect.Proofs.Float64.Nearest

/-!
# `Introspect.Proofs.Conversion.Narrowing`: whole numbers from floating-point ones

A double becomes a whole number by rounding, and a whole number out of range is refused.
`convert_float` says for all doubles what comes out. At 32 bits it is the nearest whole number, if
that is one of 32 bits; there is nothing for a double that is not finite. At 64 bits the same holds
with one exception. The upper end of the range is `2 ^ 63 - 1`, which is no double; the test
compares with the double next to it, which is `2 ^ 63`, so that one double passes although it is out
of range, and becomes the upper end (`convert_exceeds_range`).
-/

set_option autoImplicit false

namespace Introspect

namespace Float64

variable {x : Float64} {n : ℤ}

/-- The nearest whole number is the rounded one. -/
theorem isNearest_iff : IsNearest x.toRat n ↔ x.roundAway = n :=
  ⟨fun h => x.isNearest_roundAway.unique h, fun h => h ▸ x.isNearest_roundAway⟩

/-- Nothing but the number itself is rounded to a whole number above `2 ^ 52`. -/
theorem toRat_eq_of_roundAway (h : x.roundAway = n) (hlarge : 2 ^ 52 < n) : x.toRat = n := by
  have hnearest := isNearest_iff.mpr h
  have hbound : (2 : ℚ) ^ 52 + 1 ≤ n := by exact_mod_cast hlarge
  obtain ⟨hlow, -⟩ := abs_le.mp hnearest.1
  have hwhole : 2 ^ 52 ≤ |x.toRat| := le_trans (by linarith) (le_abs_self _)
  obtain ⟨m, hm⟩ := exists_int_of_le hwhole
  have hself : x.roundAway = m := isNearest_iff.mp (hm ▸ IsNearest.intCast m)
  rw [hm, ← hself, h]

end Float64

namespace Number

variable {x : Float64}

/-- At 64 bits the nearest whole number is found, and the upper end of the range for the number
right above it. -/
theorem toInt64_real_eq_some_iff {n : Int64} : (real x).toInt64 = some n ↔ x.isFinite = true ∧
    (IsNearest x.toRat n.toInt ∨ x.toRat = 2 ^ 63 ∧ n = Int64.maxValue) := by
  unfold toInt64
  dsimp only
  cases x.isFinite with
  | false => simp
  | true =>
      simp only [if_true, true_and, Float64.isNearest_iff]
      have hlow := n.le_toInt
      have hhigh := n.toInt_lt
      constructor
      · intro h
        split at h
        · next hrange =>
            obtain rfl := Option.some.inj h
            rcases Int.lt_or_eq_of_le hrange.2 with hless | htop
            · left
              rw [min_eq_left (by omega), Int64.toInt_ofInt_of_le (by omega) (by omega)]
            · right
              refine ⟨?_, by rw [htop]; rfl⟩
              rw [Float64.toRat_eq_of_roundAway htop (by norm_num)]
              norm_num
        · cases h
      · rintro (hround | ⟨hvalue, rfl⟩)
        · rw [hround, if_pos ⟨hlow, by omega⟩, min_eq_left (by omega), Int64.ofInt_toInt]
        · have hround : x.roundAway = 2 ^ 63 := by
            refine Float64.isNearest_iff.mp ?_
            have hself := IsNearest.intCast (2 ^ 63)
            rwa [Int.cast_pow, Int.cast_ofNat, ← hvalue] at hself
          rw [hround]
          rfl

/-- At 32 bits the nearest whole number is found. -/
theorem toInt32_real_eq_some_iff {n : Int32} :
    (real x).toInt32 = some n ↔ x.isFinite = true ∧ IsNearest x.toRat n.toInt := by
  have hsmall : n.toInt64 ≠ Int64.maxValue := by
    intro heq
    have htop : n.toInt = 2 ^ 63 - 1 := by
      rw [← Int32.toInt_toInt64, heq]
      rfl
    have hlt := n.toInt_lt
    omega
  simp only [toInt32_eq_some_iff, toInt64_real_eq_some_iff, Int32.toInt_toInt64, hsmall, and_false,
    or_false]

end Number

namespace World

variable {w : World}

/-- A double becomes a whole number by rounding, for all bits that it may have and in every registry
that keeps its built-in types.

* There is exactly one nearest whole number, with halves going away from zero.
* At 32 bits the conversion gives this whole number if the double is finite and the number is one of
  32 bits, and nothing otherwise.
* At 64 bits it is the same, unless the double is finite and exactly `2 ^ 63`.
* That double becomes the upper end of the range, one less than its value. -/
theorem convert_float (hgrounded : w.registry.Grounded) (x : Float64) :
    (∃! n : ℤ, IsNearest x.toRat n) ∧
    (∀ r, w.convert (.float64 x) .int32 = some r ↔
      x.isFinite = true ∧ ∃ n : Int32, IsNearest x.toRat n.toInt ∧ r = .int32 n) ∧
    ((x.isFinite = true → x.toRat ≠ 2 ^ 63) → ∀ r, w.convert (.float64 x) .int64 = some r ↔
      x.isFinite = true ∧ ∃ n : Int64, IsNearest x.toRat n.toInt ∧ r = .int64 n) ∧
    (x.isFinite = true → x.toRat = 2 ^ 63 →
      w.convert (.float64 x) .int64 = some (.int64 Int64.maxValue)) := by
  have hint32 : w.convert (.float64 x) .int32 = (Number.real x).toInt32.map .int32 :=
    convert_number hgrounded rfl rfl (by decide) (by decide) (by decide) (by decide)
  have hint64 : w.convert (.float64 x) .int64 = (Number.real x).toInt64.map .int64 :=
    convert_number hgrounded rfl rfl (by decide) (by decide) (by decide) (by decide)
  refine ⟨x.existsUnique_isNearest, fun r => ?_, fun hvalue r => ?_, fun hfinite hvalue => ?_⟩
  · simp only [hint32, Option.map_eq_some_iff, Number.toInt32_real_eq_some_iff, and_assoc,
      exists_and_left, eq_comm (a := r)]
  · have hnearest : ∀ n : Int64, (Number.real x).toInt64 = some n ↔
        x.isFinite = true ∧ IsNearest x.toRat n.toInt := by
      intro n
      rw [Number.toInt64_real_eq_some_iff]
      exact and_congr_right fun hfinite => or_iff_left fun htop => hvalue hfinite htop.1
    simp only [hint64, Option.map_eq_some_iff, hnearest, and_assoc, exists_and_left,
      eq_comm (a := r)]
  · rw [hint64, Number.toInt64_real_eq_some_iff.mpr ⟨hfinite, .inr ⟨hvalue, rfl⟩⟩]
    rfl

/-- A world with nothing but the built-in types. -/
def bare : World := ofRegistry .initial

/-- Minus two and a half, in a double. -/
def minusTwoAndAHalf : Float64 := ⟨0xc004000000000000⟩

/-- A half goes away from zero. -/
theorem convert_float_half : bare.registry.Grounded ∧
    bare.convert (.float64 minusTwoAndAHalf) .int32 = some (.int32 (-3)) ∧
    bare.convert (.float64 minusTwoAndAHalf) .int64 = some (.int64 (-3)) := by
  have hgrounded : bare.registry.Grounded := Registry.grounded_initial
  obtain ⟨-, hint32, hint64, -⟩ := convert_float hgrounded minusTwoAndAHalf
  have hnearest : IsNearest minusTwoAndAHalf.toRat (-3) := Float64.isNearest_iff.mpr rfl
  have hvalue : minusTwoAndAHalf.toRat ≠ 2 ^ 63 := by
    intro heq
    have hself := IsNearest.intCast (2 ^ 63)
    rw [Int.cast_pow, Int.cast_ofNat, ← heq] at hself
    exact absurd (hself.unique hnearest) (by decide)
  exact ⟨hgrounded, (hint32 _).mpr ⟨rfl, -3, hnearest, rfl⟩,
    (hint64 (fun _ => hvalue) _).mpr ⟨rfl, -3, hnearest, rfl⟩⟩

/-- The double `2 ^ 63`. -/
def twoToThe63 : Float64 := ⟨0x43e0000000000000⟩

/-- The double `2 ^ 63` is out of range and is converted all the same, to another number. -/
theorem convert_exceeds_range :
    twoToThe63.isFinite = true ∧ IsNearest twoToThe63.toRat (2 ^ 63) ∧
      Int64.maxValue.toInt < 2 ^ 63 ∧
      bare.convert (.float64 twoToThe63) .int64 = some (.int64 Int64.maxValue) :=
  ⟨rfl, Float64.isNearest_iff.mpr rfl, by decide, rfl⟩

end World

end Introspect
