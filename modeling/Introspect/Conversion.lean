import Introspect.Decimal.Reading
import Introspect.Decimal.Shortest
import Introspect.World

/-!
# `Introspect.Conversion`: conversions between types that are not assignable

Besides values that are already of the wanted type, `convert` handles numbers, which are widened or
narrowed with a check, texts, which are read as numbers, truth values and members of enumerations,
and the way back to texts. `fit` tells whether a value is taken as it is or converted, and `coerce`
does what `fit` found.

`fit_null` says that null fits every type except value types, and `Number.toInt32_whole` that a
whole number reaches 32 bits exactly when it is in their range.
-/

set_option autoImplicit false

namespace Introspect

/-- A number on its way to another type. -/
inductive Number
  | whole (n : Int64)
  | real (x : Float64)

namespace Number

/-- The number that a value holds. -/
def ofValue : Value → Option Number
  | .bool b => some (.whole (if b then 1 else 0))
  | .int32 n => some (.whole n.toInt64)
  | .int64 n => some (.whole n)
  | .enum _ n => some (.whole n)
  | .float64 x => some (.real x)
  | _ => none

/-- The whole number nearest to a number. The first number above the range still counts as its upper
end. -/
def toInt64 : Number → Option Int64
  | whole n => some n
  | real x =>
    if x.isFinite then
      -- The upper bound has no exact double, and the nearest one is just above it.
      let n := x.roundAway
      if -0x8000000000000000 ≤ n ∧ n ≤ 0x8000000000000000 then
        some (Int64.ofInt (min n 0x7fffffffffffffff))
      else none
    else none

/-- The whole number nearest to a number, in 32 bits. -/
def toInt32 (number : Number) : Option Int32 :=
  number.toInt64.bind fun n =>
    if Int32.minValue.toInt ≤ n.toInt ∧ n.toInt ≤ Int32.maxValue.toInt then some n.toInt32
    else none

/-- The floating-point number nearest to a number. -/
def toFloat64 : Number → Float64
  | whole n => Float64.ofInt n.toInt
  | real x => x

/-- Whether a number differs from zero. -/
def isNonzero : Number → Bool
  | whole n => n != 0
  | real x => x.isNonzero

/-- The value of a built-in type that a number stands for. -/
def toType (number : Number) (type : TypeHandle) : Option Value :=
  if type = TypeHandle.int32 then number.toInt32.map .int32
  else if type = TypeHandle.int64 then number.toInt64.map .int64
  else if type = TypeHandle.float64 then some (.float64 number.toFloat64)
  else if type = TypeHandle.bool then some (.bool number.isNonzero)
  else none

end Number

/-- The truth value that a word stands for, in any case. -/
def boolOfWord (word : String) : Option Bool :=
  let word := Text.lowercase word
  if ["1", "true", "yes", "on"].contains word then some true
  else if ["0", "false", "no", "off"].contains word then some false
  else none

/-- The value of a built-in type that a text denotes; blanks around it do not count. -/
def valueOfText (text : String) (type : TypeHandle) : Option Value :=
  match Text.trimList text.toList with
  | [] => none
  | cs =>
    if type = TypeHandle.bool then (boolOfWord (String.ofList cs)).map .bool
    else if type = TypeHandle.int32 then (Decimal.int32? cs).map .int32
    else if type = TypeHandle.int64 then (Decimal.int64? cs).map .int64
    else if type = TypeHandle.float64 then (Decimal.float? cs).map .float64
    else none

/-- The content of a constant. -/
def FieldInfo.constant? (field : FieldInfo) : Option Value :=
  match field.access with
  | .constant content => some content
  | _ => none

namespace Registry

/-- The name of the first member of an enumeration that stands for a value. -/
def enumName (reg : Registry) (type : TypeHandle) (value : Int64) : Option String := do
  let info ← reg.get type
  let field ← info.fields.find? fun field =>
    match field.constant? with
    | some (.enum t v) => t == type && v == value
    | _ => false
  return field.name

/-- The name inside a text: what comes before the first comma and after the last point before it. -/
def bareName (text : String) : String :=
  let before := Text.trimList (text.toList.takeWhile (· != ','))
  String.ofList (Text.trimList (before.reverse.takeWhile (· != '.')).reverse)

/-- The member of an enumeration that a text names, or else the number that it denotes. -/
def enumOfText (reg : Registry) (text : String) (type : TypeHandle) : Option Value := do
  -- A name goes before a number, so a member called 7 is found by that name.
  let name := bareName text
  let info ← reg.get type
  match info.fields.find? fun field => field.isConstant && field.name == name with
  | some field => field.constant?
  | none => (Decimal.int64? name.toList).map (.enum type)

/-- The member of an enumeration that a value stands for. -/
def enumOfValue (reg : Registry) (v : Value) (type : TypeHandle) : Option Value :=
  match v with
  | .string text => reg.enumOfText text type
  | .int32 n => some (.enum type n.toInt64)
  | .int64 n => some (.enum type n)
  | .enum _ n => some (.enum type n)
  | _ => none

/-- The text of a value of a built-in type or an enumeration. -/
def textOfValue (reg : Registry) (v : Value) : Option String :=
  match v with
  | .bool b => some (if b then "true" else "false")
  | .int32 n => some (Decimal.ofInt n.toInt)
  | .int64 n => some (Decimal.ofInt n.toInt)
  | .float64 x => some (Decimal.plainText x)
  | .string s => some s
  | .enum type n => some ((reg.enumName type n).getD (Decimal.ofInt n.toInt))
  | _ => none

/-- A value of another type that stands for the same. -/
def convertTo (reg : Registry) (v : Value) (type : TypeHandle) : Option Value := do
  let info ← reg.get type
  if info.kind = .enum then reg.enumOfValue v type
  else if type = TypeHandle.string then (reg.textOfValue v).map .string
  else match v with
    | .string text => valueOfText text type
    | _ => (← Number.ofValue v).toType type

end Registry

/-- How a value reaches a place of a type. -/
inductive Fit
  /-- as it is -/
  | direct
  /-- after a conversion -/
  | converted
  deriving DecidableEq

namespace World

/-- The value as one of another type, if there is a conversion. A cell stands for what it holds. -/
def convert (w : World) (v : Value) (type : TypeHandle) : Option Value := do
  -- One cell is opened; what it holds is looked at as it is.
  let v := w.opened v
  let actual ← w.typeOf v
  if w.registry.isAssignable type actual then some v else w.registry.convertTo v type

/-- How a value reaches a place of a type, if it does. -/
def fit (w : World) (v : Value) (type : TypeHandle) : Option Fit :=
  match w.typeOf v with
  | none => if w.registry.isValueType type then none else some .direct
  | some actual =>
    if w.registry.isAssignable type actual then some .direct
    else (w.convert v type).map fun _ => .converted

/-- The failure of a value that does not fit. -/
def misfit (w : World) (v : Value) (type : TypeHandle) : InvokeError :=
  .wrongType (w.registry.nameOf type) (w.describe v)

/-- The value as it is put in a place of a type. -/
def coerce (w : World) (v : Value) (type : TypeHandle) : Except InvokeError Value :=
  match w.fit v type with
  | some .direct => w.cast v type
  | some .converted =>
    match w.convert v type with
    | some v => .ok v
    | none => .error (w.misfit v type)
  | none => .error (w.misfit v type)

/-- Null fits every type but the value types. -/
theorem fit_null (w : World) (type : TypeHandle) :
    w.fit .null type = if w.registry.isValueType type then none else some .direct := by
  have : w.typeOf .null = none := by simp [typeOf, content, follow, directType]
  simp [fit, this]

end World

/-- A whole number reaches 32 bits exactly when it is in their range. -/
theorem Number.toInt32_whole (n : Int64) :
    (Number.whole n).toInt32 =
      if Int32.minValue.toInt ≤ n.toInt ∧ n.toInt ≤ Int32.maxValue.toInt then some n.toInt32
      else none := rfl

end Introspect
