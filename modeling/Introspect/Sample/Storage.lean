import Introspect.Layout

/-!
# `Introspect.Sample.Storage`: what instances of the sample types store

A table of the native types with their bases and slots. From it come the layouts of all of them, and
new instances. Some slots hold an instance or member of another sample type, whose handle is known
only to a registry, so those handles are parameters.

`layouts_length` says that every native type of the table has a layout.
-/

set_option autoImplicit false

namespace Introspect.Sample

/-- The types of what slots hold in place. -/
structure InnerTypes where
  point : TypeHandle
  status : TypeHandle

/-- The native type of points. -/
def pointType : NativeType := .struct "Point"
/-- The native type of states. -/
def statusType : NativeType := .enum "Status" [-1, 0, 1, 50]
/-- The native type of colors. -/
def colorType : NativeType := .enum "Color" [0, 1, 2]

/-- A native type: its name, its base and its own slots. -/
structure StorageEntry where
  native : String
  base : Option String
  slots : List (String × NativeType)

/-- The native types; a base comes before what is derived from it. -/
def storageTable : List StorageEntry := [
  ⟨"Point", none, [("x", .int32), ("y", .int32), ("visits", .int32)]⟩,
  ⟨"Person", none, [("name", .string), ("age", .int32), ("secret", .string), ("id", .int32),
    ("nickname", .string)]⟩,
  ⟨"Employee", some "Person", [("company", .string)]⟩,
  ⟨"Bag", none, [("items", .list .string)]⟩,
  ⟨"PersonRecord", none, [("name", .string), ("age", .int32)]⟩,
  ⟨"PersonView", none, [("name", .string), ("age", .int32)]⟩,
  ⟨"Badge", none, [("name", .string)]⟩,
  ⟨"DuplicateNames", none, [("name", .string), ("display_name", .string)]⟩,
  ⟨"Animal", none, [("name", .string), ("legs", .int32), ("energy", .int64)]⟩,
  ⟨"Dog", some "Animal", [("breed", .string), ("nick", .string), ("mood", .string),
    ("barks", .int32)]⟩,
  ⟨"Puppy", some "Dog", [("weeks", .int32)]⟩,
  ⟨"Cat", some "Animal", [("lives", .int64)]⟩,
  ⟨"Robot", none, [("model", .string)]⟩,
  ⟨"Parent", none, [("tag", .string)]⟩,
  ⟨"Child", some "Parent", [("extra", .int32)]⟩,
  ⟨"Node", none, [("label", .string), ("next", .value), ("kids", .value)]⟩,
  ⟨"Vec2", none, [("x", .float64), ("y", .float64)]⟩,
  ⟨"Money", none, [("amount", .int64), ("currency", .string)]⟩,
  ⟨"Segment", none, [("a", pointType), ("b", pointType), ("label", .string), ("secret", .int32)]⟩,
  ⟨"EmptyStruct", none, []⟩,
  ⟨"Wide", none, [("flag", .bool), ("small", .int32), ("big", .int64), ("real", .float64),
    ("text", .string), ("status", statusType), ("spot", pointType), ("numbers", .list .int32),
    ("words", .list .string), ("grid", .list (.list .int32)), ("any", .value)]⟩,
  ⟨"WideRecord", none, [("flag", .bool), ("small", .int64), ("big", .int64), ("text", .string),
    ("any", .string), ("real", .float64)]⟩,
  ⟨"Holder", none, [("friend", .value), ("pet", .value), ("anything", .value), ("pack", .value),
    ("text", .value), ("level", .value), ("point", .value)]⟩,
  ⟨"HolderView", none, [("friend", .value), ("pet", .value), ("anything", .value),
    ("text", .value), ("boss", .value)]⟩,
  ⟨"Tangle", none, [("a", .int32), ("b", .int32), ("c", .int64), ("s", .string), ("t", .string)]⟩,
  ⟨"Empty", none, []⟩,
  ⟨"Unicode", none, [("size", .int32), ("eclair", .int32), ("sisyphus", .int32), ("id", .int32),
    ("label", .string), ("kelvin", .int32)]⟩,
  ⟨"Props", none, [("a", .int32), ("b", .int32), ("s", .string)]⟩,
  ⟨"PropsChild", some "Props", [("extra", .int32)]⟩,
  ⟨"Order", none, [("id", .int64), ("qty", .int32), ("note", .string), ("via", .string),
    ("tag", .string), ("frozen", .bool), ("price", .float64), ("status", statusType),
    ("level", .value)]⟩,
  ⟨"OrderForm", none, [("id", .int32), ("qty", .string), ("note", .string)]⟩,
  ⟨"Costs", none, [("via", .string), ("vals", .list .value)]⟩,
  ⟨"Prices", none, [("via", .string), ("vals", .list .value)]⟩,
  ⟨"Twice", none, [("tag", .string)]⟩,
  ⟨"TwiceChild", some "Twice", []⟩]

/-- A point in the origin. -/
def origin : Instance :=
  let zero : Datum := .value (.int32 0)
  .mk "Point" none [("x", zero), ("y", zero), ("visits", zero)]

/-- The content of a slot in a new instance. -/
def initialOf (inner : InnerTypes) : NativeType → Datum
  | .bool => .value (.bool false)
  | .int32 => .value (.int32 0)
  | .int64 => .value (.int64 0)
  | .float64 => .value (.float64 .zero)
  | .string => .value (.string "")
  | .enum .. => .value (.enum inner.status 0)
  | .struct _ => .value (.struct inner.point origin)
  | .list _ => .list []
  | _ => .value .null

/-- Adds the layout of a native type to those of its bases. -/
def addLayout (inner : InnerTypes) (found : List (String × Layout)) (entry : StorageEntry) :
    List (String × Layout) :=
  let slots := entry.slots.map fun (name, type) => ⟨name, type, initialOf inner type⟩
  let base := entry.base.bind fun base => List.lookup base found
  (entry.native, .mk entry.native base slots) :: found

/-- The layouts of the native types. -/
def layouts (inner : InnerTypes) : List (String × Layout) :=
  storageTable.foldl (addLayout inner) []

/-- A new instance of a native type. -/
def newInstance (inner : InnerTypes) (native : String) : Instance :=
  match (layouts inner).lookup native with
  | some layout => layout.initial
  | none => default

/-- A new instance of a native type that holds no instance of another one. -/
def fresh (native : String) : Instance :=
  newInstance ⟨.unregistered, .unregistered⟩ native

/-- The native type of a slot. -/
def slotType (native slot : String) : NativeType :=
  match (storageTable.find? (·.native == native)).bind (·.slots.lookup slot) with
  | some type => type
  | none => .value

/-- Every native type of the table has a layout. -/
theorem layouts_length (inner : InnerTypes) : (layouts inner).length = storageTable.length := by
  have step : ∀ (entries : List StorageEntry) (found : List (String × Layout)),
      (entries.foldl (addLayout inner) found).length = found.length + entries.length := by
    intro entries
    induction entries with
    | nil => intro found; rfl
    | cons entry rest ih =>
      intro found
      simp only [List.foldl_cons, ih, List.length_cons, addLayout]
      omega
  simpa [layouts] using step storageTable []

end Introspect.Sample
