import Introspect.Decimal.Rounding

/-!
# `Introspect.Float64`: 64-bit binary floating point by its bits

A number is kept as its 64 bits. A finite one denotes `± significand · 2 ^ scale`, so conversions
can be computed and stated in exact whole-number arithmetic: `ofRatio` rounds a quotient to the
nearest number, `ofInt` a whole number, and `roundAway` goes back to the nearest whole number.

Equality is that of numbers: a NaN differs from everything, and the two zeros are equal.
-/

set_option autoImplicit false

namespace Introspect

/-- A 64-bit binary floating-point number, given by its bits. -/
structure Float64 where
  bits : UInt64
  deriving DecidableEq

namespace Float64

/-- The sign bit. -/
def isNegative (x : Float64) : Bool :=
  x.bits >>> 63 != 0

/-- The eleven exponent bits. -/
def exponentField (x : Float64) : Nat :=
  ((x.bits >>> 52) &&& 0x7ff).toNat

/-- The 52 fraction bits. -/
def fractionField (x : Float64) : Nat :=
  (x.bits &&& 0xfffffffffffff).toNat

/-- Neither infinite nor NaN. -/
def isFinite (x : Float64) : Bool :=
  x.exponentField != 0x7ff

/-- Not a number. -/
def isNaN (x : Float64) : Bool :=
  !x.isFinite && x.fractionField != 0

/-- The significand of a finite number, with the hidden bit of a normal one. -/
def significand (x : Float64) : Nat :=
  if x.exponentField = 0 then x.fractionField else x.fractionField + Nat.pow 2 52

/-- The power of two that the significand of a finite number is multiplied by. -/
def scale (x : Float64) : Int :=
  (max x.exponentField 1 : Nat) - 1075

/-- The magnitude of a finite number as a quotient. -/
def magnitude (x : Float64) : Nat × Nat :=
  (x.significand * Nat.pow 2 x.scale.toNat, Nat.pow 2 (-x.scale).toNat)

/-- Both are numbers, and they are the same number. -/
def eq (x y : Float64) : Bool :=
  !x.isNaN && !y.isNaN && (x.bits == y.bits || (x.bits <<< 1 == 0 && y.bits <<< 1 == 0))

/-- Zero. -/
def zero : Float64 := ⟨0⟩

/-- Positive infinity. -/
def infinity : Float64 := ⟨0x7ff0000000000000⟩

/-- The NaN that reading one from text gives. -/
def nan : Float64 := ⟨0x7ff8000000000000⟩

/-- Flips the sign bit. -/
def negate (x : Float64) : Float64 := ⟨x.bits ^^^ 0x8000000000000000⟩

/-- The exponent of the last place of the number nearest to `num / den`, at least that of the
smallest number. -/
def lastPlace (num den : Nat) : Int :=
  let guess : Int := (num.log2 : Int) - den.log2
  let exponent :=
    if num * Nat.pow 2 (-guess).toNat < den * Nat.pow 2 guess.toNat then guess - 1 else guess
  max (exponent - 52) (-1074)

/-- The number nearest to `num / den`, the even one of two. What is too large becomes infinite. -/
def ofRatio (num den : Nat) : Float64 :=
  if num = 0 then zero else
  let place := lastPlace num den
  -- A carry out of the significand moves into the exponent field, where it belongs.
  let significand :=
    Decimal.roundHalfEven (num * Nat.pow 2 (-place).toNat) (den * Nat.pow 2 place.toNat)
  let bits := (place + 1074).toNat * Nat.pow 2 52 + significand
  if bits < 0x7ff0000000000000 then ⟨bits.toUInt64⟩ else infinity

/-- The number nearest to a whole number. -/
def ofInt : Int → Float64
  | .ofNat n => ofRatio n 1
  | .negSucc n => (ofRatio (n + 1) 1).negate

/-- The whole number nearest to a finite number, a half going away from zero. -/
def roundAway (x : Float64) : Int :=
  let (num, den) := x.magnitude
  let n : Int := Decimal.roundHalfUp num den
  if x.isNegative then -n else n

/-- Whether a number differs from zero; a NaN does. -/
def isNonzero (x : Float64) : Bool :=
  x.bits <<< 1 != 0

/-- Equality of numbers is symmetric. -/
theorem eq_comm (x y : Float64) : x.eq y = y.eq x := by
  unfold eq
  rw [Bool.and_comm x.isNaN.not, show (x.bits == y.bits) = (y.bits == x.bits) from
    Bool.beq_comm, Bool.and_comm (x.bits <<< 1 == 0)]

/-- A number that is not a NaN equals itself. -/
theorem eq_self (x : Float64) : x.eq x = !x.isNaN := by
  simp [eq]

end Float64

end Introspect
