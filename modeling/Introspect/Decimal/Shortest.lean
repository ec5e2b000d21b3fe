import Introspect.Float64

/-!
# `Introspect.Decimal.Shortest`: the shortest decimal text of a floating-point number

`shortest` finds the fewest digits that read back as the number, and among those the ones nearest to
it: for one digit, two digits and so on it takes the two neighbours of the number on that decimal
grid and keeps those inside the interval that rounds to the number. The search is exact arithmetic
on whole numbers.

`positional` writes the digits without an exponent, whatever their size; `scientific` writes one
digit before the point and an exponent.
-/

set_option autoImplicit false

namespace Introspect.Decimal

/-- A decimal number `digits · 10 ^ exponent`. -/
structure Digits where
  digits : Nat
  exponent : Int
  deriving DecidableEq

/-- Drops zeros at the end of the digits, at most `limit` of them. -/
def Digits.dropZeros : Nat → Digits → Digits
  | 0, d => d
  | limit + 1, d =>
    if d.digits ≠ 0 ∧ d.digits % 10 = 0 then
      Digits.dropZeros limit ⟨d.digits / 10, d.exponent + 1⟩
    else d

/-- The number of decimal digits of a whole number. -/
def length (n : Nat) : Nat :=
  (Nat.toDigits 10 n).length

/-- The interval around a finite number, in quarters of its last place: lower end, number, upper
end. Below a power of two the neighbours are twice as close. -/
def quarters (x : Float64) : Nat × Nat × Nat :=
  let m := x.significand
  let below := if x.fractionField = 0 ∧ 1 < x.exponentField then 1 else 2
  (4 * m - below, 4 * m, 4 * m + 2)

/-- The best number with `count` digits that reads back as `x`, where `10 ^ top` is the first power
of ten above `x`. -/
def withDigits (x : Float64) (top : Int) (count : Nat) : Option Digits :=
  let k := top - count
  let q := x.scale - 2
  -- Both sides are scaled to whole numbers: `d * unit` compares with `m * weight`.
  let unit := Nat.pow 10 k.toNat * Nat.pow 2 (-q).toNat
  let weight := Nat.pow 2 q.toNat * Nat.pow 10 (-k).toNat
  let (low, mid, high) := quarters x
  -- The ends of the interval round to the number exactly if its significand is even.
  let inside (d : Nat) : Bool :=
    if x.significand % 2 = 0 then low * weight ≤ d * unit && d * unit ≤ high * weight
    else low * weight < d * unit && d * unit < high * weight
  let d := mid * weight / unit
  let up := inside (d + 1)
  let down := d != 0 && inside d
  -- Of two neighbours inside the nearer one is taken, and the upper one in a tie.
  if up && (!down || (d + 1) * unit - mid * weight ≤ mid * weight - d * unit) then some ⟨d + 1, k⟩
  else if down then some ⟨d, k⟩
  else none

/-- The shortest digits of a finite number other than zero. -/
def shortest (x : Float64) : Digits :=
  let (num, den) := x.magnitude
  -- No finite number has its first digit more than 400 places behind the point.
  let top : Int := (length (num * Nat.pow 10 400 / den) : Int) - 400
  let found := (List.range 17).findSome? fun i => withDigits x top (i + 1)
  (found.getD ⟨x.significand, 0⟩).dropZeros 20

/-- A decimal number without exponent. -/
def positional (d : Digits) : String :=
  let text := Nat.toDigits 10 d.digits
  let count := text.length
  if 0 ≤ d.exponent then String.ofList (text ++ List.replicate d.exponent.toNat '0')
  else
    let places := (-d.exponent).toNat
    if places < count then
      String.ofList (text.take (count - places) ++ '.' :: text.drop (count - places))
    else String.ofList ('0' :: '.' :: List.replicate (places - count) '0' ++ text)

/-- A decimal number with one digit before the point and an exponent. -/
def scientific (d : Digits) : String :=
  let text := Nat.toDigits 10 d.digits
  let exponent := d.exponent + text.length - 1
  let mantissa := match text with
    | [] => []
    | [c] => [c]
    | c :: rest => c :: '.' :: rest
  String.ofList mantissa ++ "e" ++ toString exponent

/-- The text of a number: never an exponent, and no point behind a whole number. -/
def plainText (x : Float64) : String :=
  if x.isNaN then "NaN" else
  let sign := if x.isNegative then "-" else ""
  if !x.isFinite then sign ++ "inf"
  else if x.isNonzero then sign ++ positional (shortest x)
  else sign ++ "0"

/-- The text of a number inside a larger value: an exponent below `10 ^ -4` and from `10 ^ 16` on,
and a point behind a whole number without one. -/
def nestedText (x : Float64) : String :=
  if x.isNaN then "NaN" else
  let sign := if x.isNegative then "-" else ""
  if !x.isFinite then sign ++ "inf"
  else if !x.isNonzero then sign ++ "0.0"
  else
    let d := shortest x
    let leading := d.exponent + length d.digits - 1
    if leading < -4 || 16 ≤ leading then sign ++ scientific d
    else if 0 ≤ d.exponent then sign ++ positional d ++ ".0"
    else sign ++ positional d

end Introspect.Decimal
