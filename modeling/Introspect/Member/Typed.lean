import Introspect.Member

/-!
# `Introspect.Member.Typed`: slots and arguments at built-in types

Member code works on contents of slots; these functions take the content of a slot at a built-in
type, and put one back. A content of another type counts as the default value, which does not happen
to slots that are written through their own native type.

Arguments are converted with `unbox`, so an argument of another type is a failure. `asInt32_ofInt32`
and its companions say that a content is found as it was put.
-/

set_option autoImplicit false

namespace Introspect

namespace Datum

/-- A 32-bit whole number. -/
def ofInt32 (n : Int32) : Datum := .value (.int32 n)
/-- A 64-bit whole number. -/
def ofInt64 (n : Int64) : Datum := .value (.int64 n)
/-- A floating-point number. -/
def ofFloat (x : Float) : Datum := .value (.float64 ⟨x.toBits⟩)
/-- A text. -/
def ofText (s : String) : Datum := .value (.string s)

/-- The 32-bit whole number that is stored, or zero. -/
def asInt32 : Datum → Int32
  | .value (.int32 n) => n
  | _ => 0

/-- The 64-bit whole number that is stored, or zero. -/
def asInt64 : Datum → Int64
  | .value (.int64 n) => n
  | _ => 0

/-- The floating-point number that is stored, or zero. -/
def asFloat : Datum → Float
  | .value (.float64 x) => Float.ofBits x.bits
  | _ => 0

/-- The text that is stored, or the empty one. -/
def asText : Datum → String
  | .value (.string s) => s
  | _ => ""

/-- The truth value that is stored, or false. -/
def asBool : Datum → Bool
  | .value (.bool b) => b
  | _ => false

/-- The value that is stored, or null for a list. -/
def asValue : Datum → Value
  | .value v => v
  | .list _ => .null

/-- The list that is stored, or an empty one. -/
def asList : Datum → List Datum
  | .value _ => []
  | .list items => items

/-- A 32-bit number is found as it was put. -/
theorem asInt32_ofInt32 (n : Int32) : (ofInt32 n).asInt32 = n := rfl

/-- A 64-bit number is found as it was put. -/
theorem asInt64_ofInt64 (n : Int64) : (ofInt64 n).asInt64 = n := rfl

/-- A text is found as it was put. -/
theorem asText_ofText (s : String) : (ofText s).asText = s := rfl

end Datum

namespace MemberM

/-! ### Arguments -/

/-- Argument `index` at a native type. -/
def argAs (native : NativeType) (index : Nat) : MemberM Datum := do
  unbox native (← arg index)

/-- A 32-bit whole number as argument. -/
def argInt32 (index : Nat) : MemberM Int32 := Datum.asInt32 <$> argAs .int32 index
/-- A 64-bit whole number as argument. -/
def argInt64 (index : Nat) : MemberM Int64 := Datum.asInt64 <$> argAs .int64 index
/-- A floating-point number as argument. -/
def argFloat (index : Nat) : MemberM Float := Datum.asFloat <$> argAs .float64 index
/-- A text as argument. -/
def argText (index : Nat) : MemberM String := Datum.asText <$> argAs .string index
/-- A truth value as argument. -/
def argBool (index : Nat) : MemberM Bool := Datum.asBool <$> argAs .bool index

/-- The object that the first argument is. -/
def objectArg (missing : String) : MemberM ObjectRef := do
  match (← get).args with
  | .object ref :: _ => pure ref
  | _ => throw (.nullArgument missing)

/-! ### Slots of the receiver -/

/-- A slot with a 32-bit whole number. -/
def slotInt32 (name : String) : MemberM Int32 := Datum.asInt32 <$> slot name
/-- A slot with a 64-bit whole number. -/
def slotInt64 (name : String) : MemberM Int64 := Datum.asInt64 <$> slot name
/-- A slot with a floating-point number. -/
def slotFloat (name : String) : MemberM Float := Datum.asFloat <$> slot name
/-- A slot with a text. -/
def slotText (name : String) : MemberM String := Datum.asText <$> slot name
/-- A slot as a value. -/
def slotValue (name : String) : MemberM Value := Datum.asValue <$> slot name

/-- Stores a value in a slot after converting it. -/
def setSlotFrom (name : String) (native : NativeType) (v : Value) : MemberM Unit := do
  setSlot name (← unbox native v)

/-- The embedded base of the receiver. -/
def basePart : MemberM Instance := do
  return (← get).view.base.getD default

/-- A text as result. -/
def text (s : String) : MemberM Value := pure (.string s)

end MemberM

end Introspect
