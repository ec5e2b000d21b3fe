import Introspect.Decimal.Integer
import Introspect.Float64

/-!
# `Introspect.Decimal.Reading`: floating-point numbers from decimal text

`float?` reads an optional sign, then `inf`, `infinity` or `nan` in any case, or digits with at most
one point among them and an optional exponent. At least one digit must stand beside the point, and
at least one in the exponent. The number is rounded to nearest once, from its exact value.
-/

set_option autoImplicit false

namespace Introspect.Decimal

/-- Splits the leading digits off. -/
def spanDigits (cs : List Char) : List Char × List Char :=
  (cs.takeWhile isDigit, cs.dropWhile isDigit)

/-- Reads what follows the digits of a number: nothing, or an exponent. -/
def exponent? : List Char → Option Int
  | [] => some 0
  | c :: rest => if c = 'e' ∨ c = 'E' then integer? rest else none

/-- The number nearest to `digits · 10 ^ exponent`. An exponent far outside the range of the type is
answered without computing the power. -/
def nearest (digits : Nat) (exponent : Int) : Float64 :=
  -- The decimal exponent of the first digit, which bounds the number from both sides.
  let leading := exponent + (Nat.toDigits 10 digits).length
  if digits = 0 ∨ leading < -400 then Float64.zero
  else if 400 < leading then Float64.infinity
  else Float64.ofRatio (digits * Nat.pow 10 exponent.toNat) (Nat.pow 10 (-exponent).toNat)

/-- Reads an unsigned decimal number. -/
def unsigned? (cs : List Char) : Option Float64 :=
  let (whole, rest) := spanDigits cs
  let (fraction, rest) := match rest with
    | '.' :: rest => spanDigits rest
    | rest => ([], rest)
  if whole = [] ∧ fraction = [] then none
  else (exponent? rest).map fun e =>
    nearest (ofDigits (whole ++ fraction)) (e - fraction.length)

/-- A letter in lower case, within ASCII. -/
def asciiLower (c : Char) : Char :=
  c.toLower

/-- Reads an unsigned number, infinity or NaN. -/
def magnitude? (cs : List Char) : Option Float64 :=
  let word := String.ofList (cs.map asciiLower)
  if word = "inf" ∨ word = "infinity" then some Float64.infinity
  else if word = "nan" then some Float64.nan
  else unsigned? cs

/-- Reads a floating-point number. -/
def float? (cs : List Char) : Option Float64 :=
  let (negative, rest) := splitSign cs
  (magnitude? rest).map fun x => if negative then x.negate else x

end Introspect.Decimal
