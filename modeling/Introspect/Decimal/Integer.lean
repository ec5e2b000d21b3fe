/-!
# `Introspect.Decimal.Integer`: whole numbers in decimal text

`integer?` reads an optional sign followed by at least one decimal digit and nothing else. `int32?`
and `int64?` also ask that the number is in range, and `int32?_eq_some_iff` says that they ask
nothing more.
-/

set_option autoImplicit false

namespace Introspect.Decimal

/-- The decimal digits. -/
def isDigit (c : Char) : Bool :=
  '0' ≤ c && c ≤ '9'

/-- What a digit stands for. -/
def digitValue (c : Char) : Nat :=
  c.toNat - '0'.toNat

/-- The number that a run of digits denotes. -/
def ofDigits (digits : List Char) : Nat :=
  digits.foldl (fun n c => 10 * n + digitValue c) 0

/-- Reads at least one digit and nothing else. -/
def natural? (cs : List Char) : Option Nat :=
  if cs ≠ [] ∧ cs.all isDigit then some (ofDigits cs) else none

/-- Splits a sign off: whether it is a minus, and the rest. -/
def splitSign : List Char → Bool × List Char
  | '-' :: rest => (true, rest)
  | '+' :: rest => (false, rest)
  | rest => (false, rest)

/-- Reads an optional sign and at least one digit. -/
def integer? (cs : List Char) : Option Int :=
  let (negative, digits) := splitSign cs
  (natural? digits).map fun n => if negative then -(n : Int) else n

/-- Reads a whole number that fits 32 bits. -/
def int32? (cs : List Char) : Option Int32 :=
  (integer? cs).bind fun n =>
    if Int32.minValue.toInt ≤ n ∧ n ≤ Int32.maxValue.toInt then some (Int32.ofInt n) else none

/-- Reads a whole number that fits 64 bits. -/
def int64? (cs : List Char) : Option Int64 :=
  (integer? cs).bind fun n =>
    if Int64.minValue.toInt ≤ n ∧ n ≤ Int64.maxValue.toInt then some (Int64.ofInt n) else none

/-- A whole number in decimal. -/
def ofInt (n : Int) : String :=
  match n with
  | .ofNat k => String.ofList (Nat.toDigits 10 k)
  | .negSucc k => String.ofList ('-' :: Nat.toDigits 10 (k + 1))

/-- Reading succeeds exactly on the numbers in range. -/
theorem int32?_eq_some_iff (cs : List Char) (v : Int32) :
    int32? cs = some v ↔
      ∃ n, integer? cs = some n ∧ Int32.minValue.toInt ≤ n ∧ n ≤ Int32.maxValue.toInt ∧
        Int32.ofInt n = v := by
  simp only [int32?, Option.bind_eq_some_iff]
  constructor
  · rintro ⟨n, hn, h⟩
    split at h
    · next hr => exact ⟨n, hn, hr.1, hr.2, by simpa using h⟩
    · simp at h
  · rintro ⟨n, hn, hlo, hhi, rfl⟩
    exact ⟨n, hn, by rw [if_pos ⟨hlo, hhi⟩]⟩

end Introspect.Decimal
