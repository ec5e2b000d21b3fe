import Introspect.World

/-!
# `Introspect.Layout`: the slots of a native type

A layout lists what the instances of a native type store: the layout of the embedded base first,
then the slots of the type itself, each with its native type and what it holds in a new instance.

`initial` is a new instance. `load` fills one from values, which are converted like the arguments of
member code; slots without a value keep their initial content, and `load_nil` says that without any
value nothing but a new instance comes out. `dump` goes back from an instance to its values, base
first; `dump_length` says that it gives one for each slot.
-/

set_option autoImplicit false

namespace Introspect

/-- One slot of a native type. -/
structure SlotLayout where
  name : String
  type : NativeType
  /-- the content in a new instance -/
  initial : Datum

/-- The slots of a native type. -/
inductive Layout
  | mk (native : String) (base : Option Layout) (slots : List SlotLayout)

namespace Layout

/-- The native type. -/
def native : Layout → String
  | mk native _ _ => native

/-- How many slots there are, those of the base included. -/
def size : Layout → Nat
  | mk _ none slots => slots.length
  | mk _ (some base) slots => base.size + slots.length

/-- The storage of a new instance. -/
def initial : Layout → Instance
  | mk native none slots => .mk native none (slots.map fun s => (s.name, s.initial))
  | mk native (some base) slots =>
    .mk native (some base.initial) (slots.map fun s => (s.name, s.initial))

/-! ### From values to instances and back -/

/-- The contents of slots from values in order. -/
def loadSlots (w : World) :
    List SlotLayout → List Value → Except InvokeError (List (String × Datum))
  | [], _ => .ok []
  | slots, [] => .ok (slots.map fun s => (s.name, s.initial))
  | slot :: slots, v :: values => do
    let content ← w.unbox slot.type v
    let rest ← loadSlots w slots values
    return (slot.name, content) :: rest

/-- An instance from values in order; the first failure counts. -/
def load (w : World) : Layout → List Value → Except InvokeError Instance
  | mk native none slots, values => do
    return .mk native none (← loadSlots w slots values)
  | mk native (some base) slots, values => do
    -- The values of the base come first, however few there are.
    let part ← load w base (values.take base.size)
    return .mk native (some part) (← loadSlots w slots (values.drop base.size))

/-- The values of slots. A list in a slot becomes a new array. -/
def dumpSlots (w : World) (data : Instance) : List SlotLayout → List Value × World
  | [] => ([], w)
  | slot :: slots =>
    let (first, w) := w.box slot.type (data.get slot.name)
    let (others, w) := dumpSlots w data slots
    (first :: others, w)

/-- The values of an instance. -/
def dump (w : World) : Layout → Instance → List Value × World
  | mk _ none slots, data => dumpSlots w data slots
  | mk _ (some base) slots, data =>
    let (first, w) := dump w base (data.base.getD default)
    let (others, w) := dumpSlots w data slots
    (first ++ others, w)

/-! ### Small facts -/

/-- Without values the slots keep their initial contents. -/
theorem loadSlots_nil (w : World) (slots : List SlotLayout) :
    loadSlots w slots [] = .ok (slots.map fun s => (s.name, s.initial)) := by
  cases slots <;> rfl

/-- Without values a new instance comes out. -/
theorem load_nil (w : World) : ∀ layout : Layout, layout.load w [] = .ok layout.initial
  | mk native none slots => by
    simp only [load, loadSlots_nil, initial]
    rfl
  | mk native (some base) slots => by
    simp only [load, List.take_nil, List.drop_nil, load_nil w base, loadSlots_nil, initial]
    rfl

/-- There is one value for each slot of the type itself. -/
theorem dumpSlots_length (data : Instance) (slots : List SlotLayout) (w : World) :
    (dumpSlots w data slots).1.length = slots.length := by
  induction slots generalizing w with
  | nil => rfl
  | cons slot slots ih => simp [dumpSlots, ih]

/-- There is one value for each slot. -/
theorem dump_length : ∀ (layout : Layout) (data : Instance) (w : World),
    (layout.dump w data).1.length = layout.size
  | mk _ none slots, data, w => by simp [dump, size, dumpSlots_length]
  | mk _ (some base) slots, data, w => by
    simp [dump, size, dumpSlots_length, dump_length base]

end Layout

/-- A new value of a type, with slots from values: an object, unless the type's values are stored in
place. -/
def World.instantiate (w : World) (type : TypeHandle) (layout : Layout) (values : List Value) :
    Except InvokeError Value × World :=
  match layout.load w values with
  | .error e => (.error e, w)
  | .ok data =>
    if w.registry.isValueType type then (.ok (.struct type data), w)
    else
      let (v, w) := w.newObject type data
      (.ok v, w)

end Introspect
