/-!
# `Introspect.Decimal.Rounding`: a quotient rounded to a whole number

`roundHalfEven` and `roundHalfUp` give the whole number nearest to `num / den`; they differ only
where two are equally near.
-/

set_option autoImplicit false

namespace Introspect.Decimal

/-- The nearest whole number, the even one of two. -/
def roundHalfEven (num den : Nat) : Nat :=
  let q := num / den
  let r := num % den
  if 2 * r < den then q
  else if den < 2 * r then q + 1
  else if q % 2 = 0 then q else q + 1

/-- The nearest whole number, the larger one of two. -/
def roundHalfUp (num den : Nat) : Nat :=
  (2 * num + den) / (2 * den)

/-- The rounded quotient is at most half a unit away. -/
theorem roundHalfUp_bounds (num den : Nat) (hden : 0 < den) :
    2 * den * roundHalfUp num den ≤ 2 * num + den ∧
      2 * num < 2 * den * roundHalfUp num den + den := by
  have h := Nat.div_add_mod (2 * num + den) (2 * den)
  have hlt := Nat.mod_lt (2 * num + den) (show 2 * den > 0 by omega)
  unfold roundHalfUp
  omega

end Introspect.Decimal
