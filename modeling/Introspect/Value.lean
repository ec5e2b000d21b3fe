import Introspect.Float64
import Introspect.Handle

/-!
# `Introspect.Value`: boxed values and stored instances

A `Value` is what accessors take and return. Numbers, texts, enumeration members and boxed
value-type instances are kept in the value itself; objects, arrays and cells are references into a
heap, and carry the type they were allocated with.

An `Instance` is the storage of a class or value type: the name of the native type it was made for,
the embedded instance of its base type, and its own named slots.

Equality of values is structural for what is kept in the value and identity for references.
-/

set_option autoImplicit false

namespace Introspect

/-- A shared object and the type it was created with. -/
structure ObjectRef where
  id : Nat
  type : TypeHandle
  deriving DecidableEq

/-- A shared array, its array type and the type of its elements. -/
structure ArrayRef where
  id : Nat
  type : TypeHandle
  element : TypeHandle
  deriving DecidableEq

/-- A mutable slot outside any instance. -/
structure CellRef where
  id : Nat
  deriving DecidableEq

mutual

/-- A boxed value. -/
inductive Value
  | null
  | bool (b : Bool)
  | int32 (n : Int32)
  | int64 (n : Int64)
  | float64 (x : Float64)
  | string (s : String)
  | enum (type : TypeHandle) (value : Int64)
  | struct (type : TypeHandle) (data : Instance)
  | object (ref : ObjectRef)
  | array (ref : ArrayRef)
  | cell (ref : CellRef)

/-- The storage of an instance. -/
inductive Instance
  | mk (native : String) (base : Option Instance) (slots : List (String × Datum))

/-- The content of a slot: a value, or a list of contents that is boxed as an array. -/
inductive Datum
  | value (v : Value)
  | list (items : List Datum)

end

instance : Inhabited Value := ⟨.null⟩
instance : Inhabited Datum := ⟨.value .null⟩
instance : Inhabited Instance := ⟨.mk "" none []⟩

namespace Instance

/-- The native type the storage was made for. -/
def native : Instance → String
  | mk native _ _ => native

/-- The embedded instance of the base type. -/
def base : Instance → Option Instance
  | mk _ base _ => base

/-- The slots of the type itself, in order. -/
def slots : Instance → List (String × Datum)
  | mk _ _ slots => slots

/-- Replaces the embedded instance of the base type. -/
def setBase : Instance → Instance → Instance
  | mk native _ slots, base => mk native (some base) slots

/-- The content of a slot. -/
def get (data : Instance) (slot : String) : Datum :=
  (data.slots.lookup slot).getD default

/-- Writes a slot in a list of slots. -/
def setIn (slot : String) (content : Datum) : List (String × Datum) → List (String × Datum)
  | [] => []
  | (name, old) :: rest =>
    if name = slot then (name, content) :: rest else (name, old) :: setIn slot content rest

/-- Replaces the content of a slot. -/
def set : Instance → String → Datum → Instance
  | mk native base slots, slot, content => mk native base (setIn slot content slots)

/-- The embedded instance `depth` bases up. -/
def part : Nat → Instance → Option Instance
  | 0, data => some data
  | depth + 1, data => data.base.bind (part depth)

/-- Replaces the embedded instance `depth` bases up. -/
def setPart : Nat → Instance → Instance → Instance
  | 0, _, part => part
  | depth + 1, data, part =>
    match data.base with
    | some base => data.setBase (setPart depth base part)
    | none => data

end Instance

mutual

/-- Equality of values: references by identity, the rest by content. -/
def Value.eq : Value → Value → Bool
  | .null, .null => true
  | .bool a, .bool b => a == b
  | .int32 a, .int32 b => a == b
  | .int64 a, .int64 b => a == b
  | .float64 a, .float64 b => a.eq b
  | .string a, .string b => a == b
  | .enum s a, .enum t b => s == t && a == b
  | .struct s a, .struct t b => s == t && Instance.eq a b
  | .object a, .object b => a.id == b.id
  | .array a, .array b => a.id == b.id
  | .cell a, .cell b => a.id == b.id
  | _, _ => false

/-- Equality of storage: the same native type and equal contents. -/
def Instance.eq : Instance → Instance → Bool
  | .mk m a s, .mk n b t => m == n && Instance.eqBase a b && Instance.eqSlots s t

/-- Equality of embedded bases. -/
def Instance.eqBase : Option Instance → Option Instance → Bool
  | none, none => true
  | some a, some b => Instance.eq a b
  | _, _ => false

/-- Equality of slots, one after another. -/
def Instance.eqSlots : List (String × Datum) → List (String × Datum) → Bool
  | [], [] => true
  | (m, a) :: s, (n, b) :: t => m == n && Datum.eq a b && Instance.eqSlots s t
  | _, _ => false

/-- Equality of slot contents. -/
def Datum.eq : Datum → Datum → Bool
  | .value a, .value b => Value.eq a b
  | .list a, .list b => Datum.eqList a b
  | _, _ => false

/-- Equality of lists of contents. -/
def Datum.eqList : List Datum → List Datum → Bool
  | [], [] => true
  | a :: s, b :: t => Datum.eq a b && Datum.eqList s t
  | _, _ => false

end

namespace Value

/-- Whole-number content: both integer types and enumeration members. -/
def asInt64 : Value → Option Int64
  | .int32 n => some n.toInt64
  | .int64 n => some n
  | .enum _ n => some n
  | _ => none

/-- Whether a value is a cell. -/
def isCell : Value → Bool
  | .cell _ => true
  | _ => false

end Value

end Introspect
