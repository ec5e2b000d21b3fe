import Introspect.Decimal.Integer
import Introspect.Float64

/-!
# `Introspect.Float64.Hex`: floating-point numbers by their bits

The exact way to write a floating-point number down: its 64 bits as sixteen hexadecimal digits, with
one word for all numbers that are not a number.
-/

set_option autoImplicit false

namespace Introspect.Float64

/-- What a hexadecimal digit stands for; capital letters are not digits here. -/
def hexDigitValue (c : Char) : Nat :=
  if Decimal.isDigit c then Decimal.digitValue c else c.toNat - 'a'.toNat + 10

/-- The number of hexadecimal digits, the first one counting most. -/
def ofHexDigits (digits : List Char) : Nat :=
  digits.foldl (fun n c => 16 * n + hexDigitValue c) 0

/-- The bits in sixteen digits. -/
def toHex (x : Float64) : String :=
  if x.isNaN then "nan"
  else
    let digits := Nat.toDigits 16 x.bits.toNat
    String.ofList (List.replicate (16 - digits.length) '0' ++ digits)

/-- A number from its bits. -/
def ofHex (s : String) : Float64 :=
  if s = "nan" then .nan else ⟨(ofHexDigits s.toList).toUInt64⟩

/-- A digit at the end counts once, and all before it sixteen times. -/
theorem ofHexDigits_concat (digits : List Char) (c : Char) :
    ofHexDigits (digits ++ [c]) = 16 * ofHexDigits digits + hexDigitValue c := by
  simp [ofHexDigits]

end Introspect.Float64
