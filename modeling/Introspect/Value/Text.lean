import Introspect.Decimal.Shortest
import Introspect.Text.Quoted
import Introspect.World

/-!
# `Introspect.Value.Text`: values as text for a reader

A value is shown with its kind, an instance with the names of its slots, and an array or cell with
what it holds. An object is shown by the name of its type only, since its content may be locked.

Arrays and cells may contain one another, so the text stops at a depth that no chain of distinct
ones reaches.
-/

set_option autoImplicit false

namespace Introspect

mutual

/-- The content of a slot that stores a value of a built-in type, or an instance in place. -/
def Value.slotText : Value → String
  | .bool b => if b then "true" else "false"
  | .int32 n => Decimal.ofInt n.toInt
  | .int64 n => Decimal.ofInt n.toInt
  | .float64 x => Decimal.nestedText x
  | .string s => Text.quoted s
  | .struct _ data => Instance.text data
  | _ => "Null"

/-- An instance with the names of its slots. -/
def Instance.text : Instance → String
  | .mk native _ slots =>
    match Instance.slotTexts slots with
    | [] => native
    | texts => native ++ " \x7b " ++ ", ".intercalate texts ++ " \x7d"

/-- Slots with their names. -/
def Instance.slotTexts : List (String × Datum) → List String
  | [] => []
  | (name, content) :: rest => (name ++ ": " ++ Datum.text content) :: Instance.slotTexts rest

/-- The content of a slot. -/
def Datum.text : Datum → String
  | .value v => Value.slotText v
  | .list items => "[" ++ ", ".intercalate (Datum.texts items) ++ "]"

/-- The contents of a list. -/
def Datum.texts : List Datum → List String
  | [] => []
  | content :: rest => Datum.text content :: Datum.texts rest

end

namespace World

/-- A value as text, with at most `depth` arrays and cells inside each other. -/
def textUpTo (w : World) : Nat → Value → String
  | _, .null => "Null"
  | _, .bool b => "Bool(" ++ Value.slotText (.bool b) ++ ")"
  | _, .int32 n => "I32(" ++ Decimal.ofInt n.toInt ++ ")"
  | _, .int64 n => "I64(" ++ Decimal.ofInt n.toInt ++ ")"
  | _, .float64 x => "F64(" ++ Decimal.plainText x ++ ")"
  | _, .string s => "Str(" ++ Text.quoted s ++ ")"
  | _, .enum type n => "Enum(" ++ w.registry.nameOf type ++ "::" ++ Decimal.ofInt n.toInt ++ ")"
  | _, .struct _ data => "Struct(" ++ data.text ++ ")"
  | _, .object ref => "Object(" ++ w.registry.nameOf ref.type ++ ")"
  -- Not reached: the depth exceeds the number of arrays and cells.
  | 0, _ => "Null"
  | depth + 1, .array ref =>
    "Array([" ++ ", ".intercalate ((w.items ref).map (textUpTo w depth)) ++ "])"
  | depth + 1, .cell ref => "ValueCell(" ++ textUpTo w depth (w.cellContent ref) ++ ")"

/-- A value as text. -/
def text (w : World) (v : Value) : String :=
  w.textUpTo (w.arrays.size + w.cells.size + 1) v

end World

end Introspect
