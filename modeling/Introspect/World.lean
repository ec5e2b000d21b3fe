import Introspect.Lock
import Introspect.Registration

/-!
# `Introspect.World`: the heap, the locks and the registry

A `World` is everything that calls can read and change: the registry, the storage of objects, arrays
and cells, the locks on objects with the limit on waiting for them, static variables, and the thread
that runs.

`typeOf` gives the runtime type of a value, `cast` is the checked conversion that every marshalled
argument goes through, and `box` and `unbox` convert between values and slot contents. A cell stands
for what it holds; `content` follows cells inside cells to the value at the end. No chain of
distinct cells is longer than the heap, so following stops there.
-/

set_option autoImplicit false

namespace Introspect

/-- The state that calls run in. -/
structure World where
  registry : Registry
  objects : Array Instance
  arrays : Array (List Value)
  cells : Array Value
  locks : LockTable
  /-- the longest wait for a lock, in microseconds; zero waits without limit -/
  waitLimit : UInt64
  statics : List (String × Value)
  thread : ThreadId

namespace World

/-- A world with a registry and nothing else. -/
def ofRegistry (registry : Registry) : World :=
  { registry, objects := #[], arrays := #[], cells := #[], locks := .empty, waitLimit := 0
    statics := [], thread := 0 }

/-! ### Reading the heap -/

/-- What a cell holds. -/
def cellContent (w : World) (cell : CellRef) : Value :=
  w.cells[cell.id]?.getD .null

/-- What an array holds. -/
def items (w : World) (array : ArrayRef) : List Value :=
  w.arrays[array.id]?.getD []

/-- The storage of an object. -/
def payload (w : World) (object : ObjectRef) : Instance :=
  w.objects[object.id]?.getD default

/-- Follows at most `limit` cells. -/
def follow (w : World) : Nat → Value → Value
  | 0, v => v
  | limit + 1, .cell cell => follow w limit (w.cellContent cell)
  | _, v => v

/-- The value at the end of a chain of cells. -/
def content (w : World) (v : Value) : Value :=
  w.follow (w.cells.size + 1) v

/-- The content of a cell, one level down; any other value itself. -/
def opened (w : World) : Value → Value
  | .cell cell => w.cellContent cell
  | v => v

/-- The type of a value that is not a cell. -/
def directType : Value → Option TypeHandle
  | .null => none
  | .bool _ => some .bool
  | .int32 _ => some .int32
  | .int64 _ => some .int64
  | .float64 _ => some .float64
  | .string _ => some .string
  | .enum type _ => some type
  | .struct type _ => some type
  | .object ref => some ref.type
  | .array ref => some ref.type
  | .cell _ => none

/-- The runtime type of a value; a cell has the type of what it holds. -/
def typeOf (w : World) (v : Value) : Option TypeHandle :=
  directType (w.content v)

/-- The name of a value's runtime type, or `null`. -/
def describe (w : World) (v : Value) : String :=
  match w.typeOf v with
  | some type => w.registry.nameOf type
  | none => "null"

/-! ### Conversions -/

/-- The checked conversion of a value to a type. A cell stays a cell for the root type only; for any
other type its content is taken out first. -/
def cast (w : World) (v : Value) (type : TypeHandle) : Except InvokeError Value :=
  if type = TypeHandle.object then .ok v
  else
    -- The content is taken out once; a cell inside it is kept as it is.
    let v := w.opened v
    match w.typeOf v with
    | none =>
      if w.registry.isValueType type then .error (.nullToValueType (w.registry.nameOf type))
      else .ok v
    | some actual =>
      if actual = type ∨ w.registry.isAssignable type actual then .ok v
      else .error (.wrongType (w.registry.nameOf type) (w.registry.nameOf actual))

/-- The failure to read a value as something else. -/
def misread (w : World) (expected : String) (v : Value) : InvokeError :=
  .wrongType expected (w.describe v)

/-- The object that a value is. -/
def asObject (w : World) : Value → Except InvokeError ObjectRef
  | .object ref => .ok ref
  | v => .error (w.misread "Object" v)

/-- The array that a value is. -/
def asArray (w : World) : Value → Except InvokeError ArrayRef
  | .array ref => .ok ref
  | v => .error (w.misread "Array" v)

/-- The cell that a value is. -/
def asCell (w : World) : Value → Except InvokeError CellRef
  | .cell ref => .ok ref
  | v => .error (w.misread "ValueCell" v)

mutual

/-- The slot content that a value stands for, at a native type. The conversion is exact: numbers are
not widened. -/
def unbox (w : World) : NativeType → Value → Except InvokeError Datum
  | .value, v => .ok (.value v)
  | .object, v =>
    match v with
    | .object _ => .ok (.value v)
    | _ => .error (w.misread "Object" v)
  | .array, v =>
    match v with
    | .array _ => .ok (.value v)
    | _ => .error (w.misread "Array" v)
  | .cell, v =>
    match v with
    | .cell _ => .ok (.value v)
    | _ => .error (w.misread "ValueCell" v)
  | .unit, _ => .ok (.value .null)
  | .bool, v =>
    match w.content v with
    | .bool b => .ok (.value (.bool b))
    | _ => .error (w.misread "Bool" v)
  | .int32, v =>
    match w.content v with
    | .int32 n => .ok (.value (.int32 n))
    | _ => .error (w.misread "Int32" v)
  | .int64, v =>
    match w.content v with
    | .int64 n => .ok (.value (.int64 n))
    | _ => .error (w.misread "Int64" v)
  | .float64, v =>
    match w.content v with
    | .float64 x => .ok (.value (.float64 x))
    | _ => .error (w.misread "Float64" v)
  | .string, v =>
    match v with
    | .string s => .ok (.value (.string s))
    | .null => .error .nullText
    | _ => .error (w.misread "String" v)
  | .described name, v => .error (w.misread name v)
  | .struct name, v =>
    match w.content v with
    | .struct type data =>
      -- The storage decides, not the type that the value claims to have.
      if data.native = name then .ok (.value (.struct type data)) else .error (w.misread name v)
    | _ => .error (w.misread name v)
  | .enum name members, v =>
    match w.content v with
    | .enum type value =>
      if w.registry.natives.lookup (.enum name members) = some type then
        if value ∈ members then .ok (.value (.enum type value))
        else .error (.unknownMember value.toInt name)
      else .error (w.misread name v)
    | _ => .error (w.misread name v)
  | .list element, v =>
    match v with
    | .array ref => (unboxAll w element (w.items ref)).map .list
    | _ => .error (w.misread "Array" v)
  | .optional native, v =>
    match v with
    | .null => .ok (.value .null)
    | _ => unbox w native v
  termination_by native _ => (sizeOf native, 0)

/-- The contents that the items of an array stand for; the first failure counts. -/
def unboxAll (w : World) (element : NativeType) : List Value → Except InvokeError (List Datum)
  | [] => .ok []
  | v :: rest => do
    let first ← unbox w element v
    let others ← unboxAll w element rest
    return first :: others
  termination_by vs => (sizeOf element, vs.length + 1)

end

/-- The type of a native type. A list is registered on its first request. Code runs only once the
other native types that it uses are registered, so no description is at hand. -/
def handleOf (w : World) (native : NativeType) : TypeHandle × World :=
  let (type, registry) := Registry.request [] native w.registry
  (type, { w with registry })

/-- Allocates an array with elements of a type. -/
def newArray (w : World) (element : TypeHandle) (items : List Value) : Value × World :=
  let (type, registry) := w.registry.arrayOf element
  (.array ⟨w.arrays.size, type, element⟩, { w with registry, arrays := w.arrays.push items })

/-- Allocates an object. -/
def newObject (w : World) (type : TypeHandle) (data : Instance) : Value × World :=
  (.object ⟨w.objects.size, type⟩, { w with objects := w.objects.push data })

/-- Allocates a cell. -/
def newCell (w : World) (content : Value) : Value × World :=
  (.cell ⟨w.cells.size⟩, { w with cells := w.cells.push content })

/-- The element type of a list type. -/
def elementOf : NativeType → NativeType
  | .list element => element
  | .optional content => elementOf content
  | _ => .value

mutual

/-- The value that a slot content stands for, at a native type. A list becomes a new array. -/
def box (w : World) (native : NativeType) : Datum → Value × World
  | .value v => (v, w)
  | .list contents =>
    let (values, w) := boxAll w (elementOf native) contents
    -- The items come first: their own arrays may be the first of their type.
    let (element, w) := w.handleOf (elementOf native)
    w.newArray element values

/-- The values that slot contents stand for. -/
def boxAll (w : World) (native : NativeType) : List Datum → List Value × World
  | [] => ([], w)
  | content :: rest =>
    let (first, w) := box w native content
    let (others, w) := boxAll w native rest
    (first :: others, w)

end

/-! ### Writing the heap -/

/-- Replaces the content of a cell. -/
def setCell (w : World) (cell : CellRef) (v : Value) : World :=
  { w with cells := w.cells.setIfInBounds cell.id v }

/-- Replaces the items of an array. -/
def setItems (w : World) (array : ArrayRef) (items : List Value) : World :=
  { w with arrays := w.arrays.setIfInBounds array.id items }

/-- Replaces the storage of an object. -/
def setPayload (w : World) (object : ObjectRef) (data : Instance) : World :=
  { w with objects := w.objects.setIfInBounds object.id data }

/-- A static variable. -/
def loadStatic (w : World) (key : String) : Value :=
  (w.statics.lookup key).getD .null

/-- Replaces a static variable. -/
def storeStatic (w : World) (key : String) (v : Value) : World :=
  { w with statics := (key, v) :: w.statics.filter (·.1 != key) }

/-! ### Locks -/

/-- The limit on waiting for a lock, in microseconds. -/
def waitLimit? (w : World) : Option Nat :=
  if w.waitLimit = 0 then none else some w.waitLimit.toNat

/-- Sets the limit on waiting for a lock, in microseconds. A limit is at least one microsecond and
at most what fits the word. -/
def setWaitLimit (w : World) (limit : Option Nat) : World :=
  let word : UInt64 := match limit with
    | none => 0
    | some micros => (max 1 (min micros (UInt64.size - 1))).toUInt64
  { w with waitLimit := word }

/-- Takes the lock of an object for the running thread. -/
def lock (w : World) (object : ObjectRef) (wanted : Hold) : Except InvokeError World :=
  match w.locks.acquire w.thread object.id wanted with
  | .ok locks => .ok { w with locks }
  | .error (.reentrant held) => .error (.reentrant (w.registry.nameOf object.type) held)
  | .error .unavailable =>
    .error (.lockTimeout (w.registry.nameOf object.type) wanted w.waitLimit?)

/-- Ends a guard of the running thread. -/
def unlock (w : World) (object : ObjectRef) (mode : Hold) : World :=
  { w with locks := w.locks.release w.thread object.id mode }

/-- Reads the part of an object that belongs to a type, under a shared lock. -/
def inspect (w : World) (object : ObjectRef) (type : TypeHandle) (native : String) :
    Except InvokeError Instance :=
  match w.lock object .shared with
  | .error e => .error e
  | .ok _ =>
    let data := w.payload object
    match (w.registry.depth? object.type type data).bind fun depth => data.part depth with
    | some part => if part.native = native then .ok part else .error (.foreignInstance native)
    | none => .error (.foreignInstance native)

/-- Changes the part of an object that belongs to a type, under an exclusive lock. -/
def update (w : World) (object : ObjectRef) (type : TypeHandle) (native : String)
    (change : Instance → Instance) : Except InvokeError World :=
  match w.lock object .exclusive with
  | .error e => .error e
  | .ok _ =>
    let data := w.payload object
    match w.registry.depth? object.type type data with
    | none => .error (.foreignInstance native)
    | some depth =>
      match data.part depth with
      | none => .error (.foreignInstance native)
      | some part =>
        if part.native = native then .ok (w.setPayload object (data.setPart depth (change part)))
        else .error (.foreignInstance native)

end World

/-- Runs member code in a world. -/
def Code.run {α : Type} : Code α → World → α × World
  | done a, w => (a, w)
  | nameOf type next, w => (next (w.registry.nameOf type)).run w
  | describe v next, w => (next (w.describe v)).run w
  | zeroOf type next, w => (next (w.registry.zeroOf type)).run w
  | cast v type next, w => (next (w.cast v type)).run w
  | unbox native v next, w => (next (w.unbox native v)).run w
  | box native content next, w =>
    (next (w.box native content).1).run (w.box native content).2
  | create type data next, w => (next (w.newObject type data).1).run (w.newObject type data).2
  | load key next, w => (next (w.loadStatic key)).run w
  | store key v next, w => next.run (w.storeStatic key v)
  | inspect object type native next, w => (next (w.inspect object type native)).run w
  | update object type native change next, w =>
    match w.update object type native change with
    | .ok w' => (next (.ok ())).run w'
    | .error e => (next (.error e)).run w

/-- Running one computation after another runs the second in the world that the first left. -/
theorem Code.run_bind {α β : Type} (code : Code α) (f : α → Code β) (w : World) :
    (code.bind f).run w = (f (code.run w).1).run (code.run w).2 := by
  induction code generalizing w with
  | done a => rfl
  | nameOf t next ih => exact ih _ _
  | describe v next ih => exact ih _ _
  | zeroOf t next ih => exact ih _ _
  | cast v t next ih => exact ih _ _
  | unbox n v next ih => exact ih _ _
  | box n d next ih => exact ih _ _
  | create t d next ih => exact ih _ _
  | load k next ih => exact ih _ _
  | store k v next ih => exact ih _
  | inspect o t n next ih => exact ih _ _
  | update o t n c next ih =>
    simp only [Code.bind, Code.run]
    split <;> exact ih _ _

end Introspect
